import Tabular.Engine

/-!
# Chunks

The source of a copy gives its rows one chunk at a time. What a chunk leaves unread, and what is so
of a source that has no chunk left.
-/

set_option autoImplicit false

namespace Tabular.CopySource

variable {width size : Nat} {feed unread : Feed Row} {source after : CopySource} {error : Error}

/-- A failure is not passed over: a chunk that is filled leaves it among what is not read. -/
theorem mem_of_fill {texts : List (List UInt8)} (filled : fill width size feed = (.ok texts, unread))
    (member : .error error ∈ feed) : .error error ∈ unread := by
  fun_induction fill width size feed generalizing texts with
  | case1 => cases member
  | case2 size piece rest full =>
      cases filled
      exact member
  | case3 => cases filled
  | case4 size rest _ ih =>
      cases member with
      | tail _ later => exact ih filled later
  | case5 size rest full cell cells text inner left same =>
      rename_i ih
      obtain ⟨found, rfl⟩ := Prod.mk.inj filled
      cases inner with
      | error failure => cases found
      | ok others =>
          cases member with
          | tail _ later => exact ih same later

theorem mem_of_next {chunk : Option (List UInt8)} (read : source.next = (.ok chunk, after))
    (member : .error error ∈ source.unread) : .error error ∈ after.unread := by
  rw [next] at read
  split at read
  · cases read
  · rename_i filled
    cases read
    exact mem_of_fill filled member
  · rename_i filled
    cases read
    exact mem_of_fill filled member

theorem unread_of_fill_nil (room : size < chunkSize)
    (filled : fill width size feed = (.ok [], unread)) : unread = [] := by
  fun_induction fill width size feed with
  | case1 =>
      cases filled
      rfl
  | case2 size piece rest full => exact absurd full (Nat.not_le_of_lt room)
  | case3 => cases filled
  | case4 size rest _ ih => exact ih room filled
  | case5 size rest _ cell cells text outcome left same ih =>
      obtain ⟨none_left, _⟩ := Prod.mk.inj filled
      cases outcome with
      | error error => cases none_left
      | ok texts => cases none_left

/-- Without another chunk the feed is at its end, and there is none ever after. -/
theorem next_of_none (ended : source.next = (.ok none, after)) :
    after.unread = [] ∧ after.next = (.ok none, after) := by
  rw [next] at ended
  split at ended
  · cases ended
  · rename_i unread filled
    have at_end := unread_of_fill_nil (by decide) filled
    subst at_end
    cases ended
    exact ⟨rfl, rfl⟩
  · cases ended

/-- A source that is pulled without a failure had none. -/
theorem not_mem_of_pull (source : CopySource) (whole : source.pull.2.1 = none) :
    .error error ∉ source.unread := by
  fun_induction pull source with
  | case1 => cases whole
  | case2 source after ended =>
      intro member
      have left := mem_of_next ended member
      rw [(next_of_none ended).1] at left
      cases left
  | case3 source chunk after read chunks failure last pulled ih =>
      intro member
      rw [pulled] at ih
      exact ih whole (mem_of_next read member)

end Tabular.CopySource
