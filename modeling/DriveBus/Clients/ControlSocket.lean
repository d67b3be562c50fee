import DriveBus.ControlPlane.Protocol
import Mathlib.Data.List.ReduceOption
import Mathlib.Data.Multiset.AddSub

/-!
# Receiving on the control socket

What a client gets from `recvmsg`: the bytes of one record, whether something of it was
cut off, and its first control message.  The client takes a descriptor out of the
control message by leaving −1 in its place, and a guard closes what is left there when
the record has been handled.
-/

namespace DriveBus.Clients

open DriveBus.ByteMemory DriveBus.ControlPlane

/-- An `int` that holds a descriptor or, as `none`, −1. -/
abbrev FdVariable := Option Fd

/-! ## Control messages -/

def kFdSize : ℕ := 4
def kCmsgHeaderSize : ℕ := 16

/-- `CMSG_ALIGN` on a 64-bit Linux. -/
def cmsgAlign (length : ℕ) : ℕ := (length + 7) / 8 * 8

/-- `CMSG_LEN`. -/
def cmsgLen (length : ℕ) : ℕ := cmsgAlign kCmsgHeaderSize + length

/-- `CMSG_SPACE`. -/
def cmsgSpace (length : ℕ) : ℕ := cmsgAlign kCmsgHeaderSize + cmsgAlign length

/-- A control message of type `SCM_RIGHTS` with its descriptors, or one that has
another level or type. -/
inductive ControlMessage
  | rights (fds : List FdVariable)
  | other
  deriving DecidableEq, Repr

/-- `is_valid_scm_rights_cmsg`; no control message is shorter than its header. -/
def isValidScmRightsCmsg : Option ControlMessage → Bool
  | some (.rights _) => true
  | _ => false

/-- `std::exchange(fds[index], -1)`. -/
def exchange (fds : List FdVariable) (index : ℕ) : FdVariable × List FdVariable :=
  (fds.getD index none, fds.set index none)

/-- The descriptors in a list of variables. -/
def openFds (fds : List FdVariable) : List Fd := fds.reduceOption

/-- `CMSG_DATA`, as an array of `int`. -/
def cmsgData : Option ControlMessage → List FdVariable
  | some (.rights fds) => fds
  | _ => []

/-- What `close_received_fds` closes. -/
def receivedFds (cmsg : Option ControlMessage) : List Fd := openFds (cmsgData cmsg)

@[simp]
theorem openFds_nil : openFds [] = [] := rfl

@[simp]
theorem openFds_some_cons (fd : Fd) (fds : List FdVariable) :
    openFds (some fd :: fds) = fd :: openFds fds := rfl

@[simp]
theorem openFds_none_cons (fds : List FdVariable) : openFds (none :: fds) = openFds fds := rfl

@[simp]
theorem openFds_map_some (fds : List Fd) : openFds (fds.map some) = fds := by
  induction fds with
  | nil => rfl
  | cons fd fds ih => rw [List.map_cons, openFds_some_cons, ih]

@[simp]
theorem length_exchange (fds : List FdVariable) (index : ℕ) :
    (exchange fds index).2.length = fds.length := by
  simp [exchange]

/-- Taking a descriptor out of the message moves it, and nothing else. -/
theorem openFds_exchange (fds : List FdVariable) (index : ℕ) :
    (openFds [(exchange fds index).1] : Multiset Fd) + openFds (exchange fds index).2 =
      openFds fds := by
  induction fds generalizing index with
  | nil => rfl
  | cons fd fds ih =>
      cases index with
      | zero => cases fd <;> rfl
      | succ index =>
          have htail := ih index
          cases fd with
          | none => exact htail
          | some fd =>
              change _ + ((fd :: openFds (exchange fds index).2 : List Fd) : Multiset Fd) =
                (fd :: openFds fds : List Fd)
              rw [← Multiset.cons_coe, ← Multiset.cons_coe, Multiset.add_cons]
              exact congrArg (fd ::ₘ ·) htail

/-! ## Records as they arrive -/

/-- What one `recvmsg` delivers; no bytes mean that the broker has closed its end. -/
structure Received where
  bytes : List Byte
  truncated : Bool
  control : Option ControlMessage
  deriving DecidableEq, Repr

/-- The descriptors that came with a record. -/
def Received.fds (received : Received) : List Fd := receivedFds received.control

/-- What a call of `recvmsg` gives, other than that the socket is drained, together with
what the calls that handle the record give. -/
inductive Receipt (Answers : Type)
  | failed
  | record (received : Received) (answers : Answers)

/-- How many descriptors the kernel delivers into a control buffer. -/
def deliverableFds (controlSize : ℕ) : ℕ := (controlSize - cmsgLen 0) / kFdSize

/-- `recvmsg` of a record into buffers of the given sizes; `fds` are the numbers that the
kernel chooses for the descriptors sent. -/
def recvmsg (packetSize controlSize : ℕ) (bytes : List Byte) (fds : List Fd) : Received where
  bytes := bytes.take packetSize
  truncated := packetSize < bytes.length ∨ deliverableFds controlSize < fds.length
  control :=
    let delivered := fds.take (deliverableFds controlSize)
    if delivered = [] then none else some (.rights (delivered.map some))

end DriveBus.Clients
