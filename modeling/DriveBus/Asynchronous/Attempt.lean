import DriveBus.Asynchronous.Queue

/-!
# What an attempt adds to the ring

A successful attempt adds its payload, a blocked one adds nothing, and a failed one
adds at most its payload.  This holds of any mapping, whatever the subscribers have
made of it.
-/

namespace DriveBus.Asynchronous

open DriveBus.ByteMemory DriveBus.SharedMemory

/-- What an attempt for a payload does to the ring: a success adds the payload, a blocked
attempt adds nothing, and a failed one adds at most the payload. -/
def AttemptSound (payload : List Byte) (result : Except RunError PublishAttempt)
    (appended : Option (List Byte)) : Prop :=
  match result with
  | .ok .succeeded => appended = some payload
  | .ok .blocked => appended = none
  | .error error => error ≠ .none ∧ (appended = none ∨ appended = some payload)

theorem appendedPayload_self (shared : SharedData) : appendedPayload shared shared = none := by
  simp [appendedPayload]

theorem appendedPayload_of_ne {before after : SharedData}
    (hwrite : after.descriptorWriteIndex ≠ before.descriptorWriteIndex) :
    appendedPayload before after = some (load after.data
      ((after.descRing before.descriptorWriteIndex).offset + kMessageHeaderSizeBytes)
      ((after.descRing before.descriptorWriteIndex).len - kMessageHeaderSizeBytes)) :=
  if_neg hwrite

theorem nextWriteIndex_ne (wr : ℕ) : nextWriteIndex wr ≠ wr := by
  unfold nextWriteIndex kDescriptorSlotCount
  dsimp only
  split <;> omega

theorem load_writeMessage (shared : SharedData) (wr headOff : ℕ) (seq : ℤ)
    (payload : List Byte) :
    load (shared.writeMessage wr headOff seq payload).data
      (headOff + kMessageHeaderSizeBytes) payload.length = payload := by
  cases payload with
  | nil => rfl
  | cons byte bytes => exact load_store_self _ _ (byte :: bytes)

/-- An attempt that has moved the write index has written its payload. -/
theorem appendedPayload_written (shared : SharedData) (sizeClass headOff : ℕ) (seq : ℤ)
    (mask : BitVec 32) (payload : List Byte) :
    appendedPayload shared
      ((((shared.popChunk sizeClass headOff).writeMessage shared.descriptorWriteIndex headOff
        seq payload).addReferences (chunkIndex sizeClass headOff) mask).storeWriteIndex
          (nextWriteIndex shared.descriptorWriteIndex)) = some payload := by
  have hload := load_writeMessage (shared.popChunk sizeClass headOff)
    shared.descriptorWriteIndex headOff seq payload
  rw [appendedPayload_of_ne (nextWriteIndex_ne _)]
  simpa [SharedData.storeWriteIndex, SharedData.addReferences, SharedData.writeMessage,
    SharedData.storeDescriptor] using hload

theorem publishChunk_sound (process : PublisherProcess) (payload : List Byte)
    (sizeClass headOff : ℕ) :
    AttemptSound payload (publishChunk process payload sizeClass headOff).1
      (appendedPayload process.shared
        (publishChunk process payload sizeClass headOff).2.shared) := by
  unfold publishChunk
  dsimp only
  split
  · refine ⟨by simp, .inl ?_⟩
    simp [appendedPayload, SharedData.writeMessage, SharedData.popChunk,
      SharedData.storeDescriptor, SharedData.storeHead, SharedData.setInUse]
  · split
    · exact ⟨by simp, .inr (appendedPayload_written ..)⟩
    · exact appendedPayload_written ..

theorem tryPublishOne_sound (process : PublisherProcess) (payload : List Byte) :
    AttemptSound payload (tryPublishOne process payload).1
      (appendedPayload process.shared (tryPublishOne process payload).2.shared) := by
  have hsame := appendedPayload_self process.shared
  unfold tryPublishOne
  dsimp only
  split
  · exact ⟨by simp, .inl hsame⟩
  · split
    · exact ⟨by simp, .inl hsame⟩
    · split
      · exact hsame
      · split
        · exact hsame
        · split
          · exact ⟨by simp, .inl hsame⟩
          · split
            · exact ⟨by simp, .inl hsame⟩
            · exact publishChunk_sound ..

theorem canPublishNextMessage_ne_none {shared : SharedData} {queue : MessageQueue}
    {error : RunError} (hcheck : canPublishNextMessage shared queue = .error error) :
    error ≠ .none := by
  unfold canPublishNextMessage at hcheck
  split at hcheck
  · cases hcheck
  · split at hcheck
    · cases hcheck
      simp
    · split at hcheck
      · cases hcheck
      · split at hcheck <;> cases hcheck

end DriveBus.Asynchronous
