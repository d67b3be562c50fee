import DriveBus.Agreement.Joint

/-!
# Two programs in one network

Publishers and subscribers are clients of one broker.  Two programs run side by side, each
client one of them, and every run of both is a run of either one among clients that run
other programs.
-/

namespace DriveBus.Agreement

open DriveBus.ControlPlane DriveBus.Transition

/-! ## The clients that run a part -/

section Parts

variable {Setup State Move Setup' State' Move' : Type}

/-- A program is part of another if its states are some of the other's, and the others
never become its own. -/
structure IsPart (program : Program Setup State Move) (part : Program Setup' State' Move')
    (setupOf : Setup → Option Setup') (stateOf : State → Option State') : Prop where
  initial : ∀ setup, stateOf (program.initial setup) = (setupOf setup).map part.initial
  own : ∀ state own channel move moved, stateOf state = some own →
    program.next state channel move = some moved → ∃ ownMove own',
      part.next own channel ownMove = some (own', moved.2) ∧ stateOf moved.1 = some own'
  other : ∀ state channel move moved, stateOf state = none →
    program.next state channel move = some moved → stateOf moved.1 = none

/-- The client as the part sees it; what others have taken counts as heard only. -/
def Client.only (stateOf : State → Option State') (client : Client State) : Client State' :=
  match client.state.bind stateOf with
  | some own => ⟨client.fd, some own, client.taken, client.channel⟩
  | none => ⟨client.fd, none, [], client.heard⟩

def Joint.only (stateOf : State → Option State') (joint : Joint State) : Joint State' where
  world := joint.world
  clients := fun serial => (joint.clients serial).map (Client.only stateOf)
  clientOf := joint.clientOf

variable {stateOf : State → Option State'} {setupOf : Setup → Option Setup'}
  {program : Program Setup State Move} {part : Program Setup' State' Move'}
  {client : Client State} {joint : Joint State}

theorem Client.only_own {own : State'} (hown : client.state.bind stateOf = some own) :
    client.only stateOf = ⟨client.fd, some own, client.taken, client.channel⟩ := by
  rw [Client.only, hown]

theorem Client.only_other (hother : client.state.bind stateOf = none) :
    client.only stateOf = ⟨client.fd, none, [], client.heard⟩ := by
  rw [Client.only, hother]

@[simp]
theorem Client.only_fd (client : Client State) : (client.only stateOf).fd = client.fd := by
  rw [Client.only]
  split <;> rfl

@[simp]
theorem Client.only_state (client : Client State) :
    (client.only stateOf).state = client.state.bind stateOf := by
  rw [Client.only]
  split
  next own hown => exact hown.symm
  next hother => exact hother.symm

/-- A client has its connection open in both. -/
theorem Joint.only_current {serial : ℕ} {client : Client State} :
    (joint.only stateOf).Current serial (client.only stateOf) ↔ joint.Current serial client := by
  rw [Joint.Current, Client.only_fd]
  exact Iff.rfl

/-- Whether a client runs the part or not, it hears the same. -/
theorem Joint.only_hear (world' : World) (serial : ℕ) (client : Client State) :
    (joint.hear world' serial client).only stateOf =
      (joint.only stateOf).hear world' serial (client.only stateOf) := by
  by_cases hcurrent : joint.Current serial client
  swap
  · rw [Joint.hear, if_neg hcurrent, Joint.hear, if_neg (mt Joint.only_current.mp hcurrent)]
  rw [Joint.hear, if_pos hcurrent, Joint.hear, if_pos (Joint.only_current.mpr hcurrent)]
  cases hstate : client.state.bind stateOf with
  | some own =>
      rw [Client.only_own hstate]
      exact Client.only_own hstate
  | none =>
      rw [Client.only_other hstate]
      refine (Client.only_other (by exact hstate)).trans ?_
      simp only [Client.heard, List.append_assoc]
      rfl

theorem Joint.only_newClient (hpart : IsPart program part setupOf stateOf) (fd : Fd)
    (runs : Option Setup) :
    (Joint.newClient program fd runs).only stateOf =
      Joint.newClient part fd (runs.bind setupOf) := by
  have hstate : (Joint.newClient program fd runs).state.bind stateOf =
      (runs.bind setupOf).map part.initial := by
    cases runs with
    | none => rfl
    | some setup => exact hpart.initial setup
  cases hruns : runs.bind setupOf with
  | none =>
      rw [Client.only_other (by rw [hstate, hruns]; rfl)]
      rfl
  | some setup =>
      rw [Client.only_own (by rw [hstate, hruns]; rfl)]
      rfl

/-- Of the other program's moves the part sees nothing. -/
theorem Joint.only_client (hpart : IsPart program part setupOf stateOf) {serial : ℕ}
    {state : State} {move : Move} {moved : State × ℕ}
    (hclient : joint.clients serial = some client) (hstate : client.state = some state)
    (hnext : program.next state client.channel move = some moved) :
    let client' := { client with
      state := some moved.1
      taken := client.taken ++ client.channel.take moved.2
      channel := client.channel.drop moved.2 }
    let joint' := { joint with clients := Function.update joint.clients serial (some client') }
    joint'.only stateOf = joint.only stateOf ∨
      ∃ ownMove, (joint.only stateOf).next part (.client serial ownMove) =
        some (joint'.only stateOf) := by
  intro client' joint'
  have hclients : (joint'.only stateOf).clients = Function.update (joint.only stateOf).clients
      serial (some (client'.only stateOf)) := by
    funext other
    by_cases hother : other = serial
    · subst hother
      simp [joint', Joint.only]
    · simp [joint', Joint.only, hother]
  have hold : (joint.only stateOf).clients serial = some (client.only stateOf) := by
    simp [Joint.only, hclient]
  cases hown : stateOf state with
  | none =>
      have hstate' : client'.state.bind stateOf = none := hpart.other _ _ _ _ hown hnext
      refine .inl ?_
      have hsame : client'.only stateOf = client.only stateOf := by
        rw [Client.only_other hstate', Client.only_other (by rw [hstate]; exact hown)]
        simp only [Client.heard, client', List.append_assoc, List.take_append_drop]
      change Joint.mk _ (joint'.only stateOf).clients _ = Joint.mk _ _ _
      rw [hclients, hsame, ← hold, Function.update_eq_self]
      rfl
  | some own =>
      obtain ⟨ownMove, own', hnext', hown'⟩ := hpart.own _ _ _ _ _ hown hnext
      have hstate' : client'.state.bind stateOf = some own' := hown'
      refine .inr ⟨ownMove, ?_⟩
      rw [Joint.next, hold, Option.bind_some,
        Client.only_own (by rw [hstate]; exact hown)]
      dsimp only
      rw [Option.bind_some, hnext', Option.map_some, Option.some.injEq]
      change _ = Joint.mk _ (joint'.only stateOf).clients _
      rw [hclients, Client.only_own hstate']
      rfl

/-- Every run is a run of the part among other clients. -/
theorem only_reachable (hpart : IsPart program part setupOf stateOf)
    {allowed : Joint State → Step Setup Move → Prop}
    (hallowed : ∀ joint action, allowed joint (.broker action) →
      part.Allows (joint.only stateOf) (.broker action))
    (hreach : program.system.ReachableWith allowed joint) :
    part.system.ReachableWith part.Allows (joint.only stateOf) := by
  refine hreach.project (Joint.only stateOf) rfl fun joint step joint' hstep hnext => ?_
  replace hnext : joint.next program step = some joint' := hnext
  cases step with
  | connect serial fd runs =>
      refine .inr ⟨.connect serial fd (runs.bind setupOf), trivial, ?_⟩
      rw [Joint.next] at hnext
      split at hnext
      · cases hnext
      next hnone =>
        obtain ⟨world', hworld', rfl⟩ := Option.map_eq_some_iff.mp hnext
        have hnone' : (joint.only stateOf).clients serial = none :=
          Option.map_eq_none_iff.mpr hnone
        change (joint.only stateOf).next part (.connect serial fd (runs.bind setupOf)) = _
        rw [Joint.next, hnone']
        dsimp only [Joint.only]
        rw [hworld', Option.map_some, Option.some.injEq, Joint.mk.injEq]
        refine ⟨rfl, ?_, rfl⟩
        funext other
        by_cases hother : other = serial
        · subst hother
          rw [Function.update_self, Function.update_self, Option.map_some,
            Joint.only_newClient hpart]
        · rw [Function.update_of_ne hother, Function.update_of_ne hother]
  | broker action =>
      refine .inr ⟨.broker action, hallowed joint action hstep, ?_⟩
      rw [Joint.next] at hnext
      split at hnext
      · cases hnext
      next hopens =>
        obtain ⟨world', hworld', rfl⟩ := Option.map_eq_some_iff.mp hnext
        change (joint.only stateOf).next part (.broker action) = _
        rw [Joint.next, if_neg hopens]
        dsimp only [Joint.only]
        rw [hworld', Option.map_some, Option.some.injEq, Joint.mk.injEq]
        refine ⟨rfl, ?_, rfl⟩
        funext serial
        rw [Option.map_map, Option.map_map]
        exact congrArg (fun f => (joint.clients serial).map f)
          (funext fun client => (Joint.only_hear world' serial client).symm)
  | client serial move =>
      simp only [Joint.next, Option.bind_eq_some_iff, Option.map_eq_some_iff] at hnext
      obtain ⟨client, hclient, state, hstate, moved, hmoved, rfl⟩ := hnext
      refine (Joint.only_client hpart hclient hstate hmoved).imp_right ?_
      rintro ⟨ownMove, hown⟩
      exact ⟨.client serial ownMove, trivial, hown⟩

end Parts

/-! ## Two programs -/

section Beside

variable {Setup State Move Setup' State' Move' : Type}
  {left : Program Setup State Move} {right : Program Setup' State' Move'}

/-- Two programs, of which a client runs one. -/
def Program.beside (left : Program Setup State Move) (right : Program Setup' State' Move') :
    Program (Setup ⊕ Setup') (State ⊕ State') (Move ⊕ Move') where
  initial := Sum.map left.initial right.initial
  Sends := fun request => left.Sends request ∨ right.Sends request
  next := fun state channel move =>
    match state, move with
    | .inl state, .inl move => (left.next state channel move).map fun moved =>
        (.inl moved.1, moved.2)
    | .inr state, .inr move => (right.next state channel move).map fun moved =>
        (.inr moved.1, moved.2)
    | _, _ => none

/-- Every client that runs one of the programs sends the requests of its own. -/
def AllowsBeside (left : Program Setup State Move) (right : Program Setup' State' Move')
    (joint : Joint (State ⊕ State')) : Step (Setup ⊕ Setup') (Move ⊕ Move') → Prop
  | .broker action => SendsOneRecord joint.world action ∧
      ∀ fd packet, action = .request fd packet →
        ∀ client, joint.clients (joint.clientOf fd) = some client →
          match client.state with
          | some (.inl _) => ∃ request, left.Sends request ∧ packet = request.packet
          | some (.inr _) => ∃ request, right.Sends request ∧ packet = request.packet
          | none => True
  | _ => True

theorem isPart_left : IsPart (left.beside right) left Sum.getLeft? Sum.getLeft? where
  initial setup := by cases setup <;> rfl
  own state own channel move moved hown hnext := by
    obtain ⟨rfl⟩ := Sum.getLeft?_eq_some_iff.mp hown
    cases move with
    | inl move =>
        obtain ⟨result, hresult, rfl⟩ := Option.map_eq_some_iff.mp hnext
        exact ⟨move, result.1, hresult, rfl⟩
    | inr move => cases hnext
  other state channel move moved hother hnext := by
    obtain ⟨state, rfl⟩ := Sum.isRight_iff.mp (Sum.getLeft?_eq_none_iff.mp hother)
    cases move with
    | inl move => cases hnext
    | inr move =>
        obtain ⟨result, -, rfl⟩ := Option.map_eq_some_iff.mp hnext
        rfl

theorem isPart_right : IsPart (left.beside right) right Sum.getRight? Sum.getRight? where
  initial setup := by cases setup <;> rfl
  own state own channel move moved hown hnext := by
    obtain ⟨rfl⟩ := Sum.getRight?_eq_some_iff.mp hown
    cases move with
    | inl move => cases hnext
    | inr move =>
        obtain ⟨result, hresult, rfl⟩ := Option.map_eq_some_iff.mp hnext
        exact ⟨move, result.1, hresult, rfl⟩
  other state channel move moved hother hnext := by
    obtain ⟨state, rfl⟩ := Sum.isLeft_iff.mp (Sum.getRight?_eq_none_iff.mp hother)
    cases move with
    | inl move =>
        obtain ⟨result, -, rfl⟩ := Option.map_eq_some_iff.mp hnext
        rfl
    | inr move => cases hnext

variable {joint : Joint (State ⊕ State')}

theorem left_reachable
    (hreach : (left.beside right).system.ReachableWith (AllowsBeside left right) joint) :
    left.system.ReachableWith left.Allows (joint.only Sum.getLeft?) := by
  refine only_reachable isPart_left (fun joint action hallowed => ⟨hallowed.1, ?_⟩) hreach
  intro fd packet haction client hclient hstate
  obtain ⟨before, hbefore, rfl⟩ := Option.map_eq_some_iff.mp hclient
  rw [Client.only_state] at hstate
  obtain ⟨own, hown⟩ := Option.ne_none_iff_exists'.mp hstate
  obtain ⟨state, hrunning, hside⟩ := Option.bind_eq_some_iff.mp hown
  have hrequest := hallowed.2 fd packet haction before hbefore
  rw [hrunning, Sum.getLeft?_eq_some_iff.mp hside] at hrequest
  exact hrequest

theorem right_reachable
    (hreach : (left.beside right).system.ReachableWith (AllowsBeside left right) joint) :
    right.system.ReachableWith right.Allows (joint.only Sum.getRight?) := by
  refine only_reachable isPart_right (fun joint action hallowed => ⟨hallowed.1, ?_⟩) hreach
  intro fd packet haction client hclient hstate
  obtain ⟨before, hbefore, rfl⟩ := Option.map_eq_some_iff.mp hclient
  rw [Client.only_state] at hstate
  obtain ⟨own, hown⟩ := Option.ne_none_iff_exists'.mp hstate
  obtain ⟨state, hrunning, hside⟩ := Option.bind_eq_some_iff.mp hown
  have hrequest := hallowed.2 fd packet haction before hbefore
  rw [hrunning, Sum.getRight?_eq_some_iff.mp hside] at hrequest
  exact hrequest

end Beside

end DriveBus.Agreement
