/-!
**Channels.**

A channel is a queue with room for a limited number of items.  The sender waits while the queue is full;
the receiver may close the channel, which drops what is in it.

Main definitions: `Channel`, `Channel.offer`, `Channel.take`, `Channel.close`.

Main results: `Channel.eq_of_offer_accepted` — an accepted item is the last of the queue;
`Channel.length_of_offer_le` — the queue never outgrows its room.
-/

set_option autoImplicit false

namespace QueryFeed

universe u

/-- A queue with limited room, and whether its receiver is still there. -/
structure Channel (α : Type u) where
  capacity : Nat
  queue : List α
  isOpen : Bool

/-- What becomes of an offered item. -/
inductive Offer (α : Type u) where
  | accepted (channel : Channel α)
  | full
  | closed

namespace Channel

variable {α : Type u}

/-- An empty channel. -/
def empty (capacity : Nat) : Channel α := ⟨capacity, [], true⟩

/-- Offers an item. -/
def offer (channel : Channel α) (item : α) : Offer α :=
  if !channel.isOpen then .closed
  else if channel.queue.length < channel.capacity then
    .accepted { channel with queue := channel.queue ++ [item] }
  else .full

/-- Takes a number of items from the front. -/
def take (channel : Channel α) (count : Nat) : List α × Channel α :=
  (channel.queue.take count, { channel with queue := channel.queue.drop count })

/-- Closes the channel. -/
def close (channel : Channel α) : Channel α := { channel with queue := [], isOpen := false }

/-- An item is accepted by an open channel only, as the last one of its queue. -/
theorem eq_of_offer_accepted {channel next : Channel α} {item : α}
    (h : channel.offer item = .accepted next) :
    channel.isOpen = true ∧ next = { channel with queue := channel.queue ++ [item] } := by
  unfold offer at h
  split at h
  · cases h
  · rename_i hopen
    split at h
    · cases h
      exact ⟨by simpa using hopen, rfl⟩
    · cases h

/-- Only a closed channel refuses an item for good. -/
theorem isOpen_of_offer_closed {channel : Channel α} {item : α}
    (h : channel.offer item = .closed) : channel.isOpen = false := by
  unfold offer at h
  split at h
  · rename_i hclosed
    simpa using hclosed
  · split at h <;> cases h

theorem length_of_offer_le {channel next : Channel α} {item : α}
    (h : channel.offer item = .accepted next) : next.queue.length ≤ next.capacity := by
  unfold offer at h
  split at h
  · cases h
  · split at h
    · rename_i hlt
      cases h
      simp only [List.length_append, List.length_singleton]
      omega
    · cases h

end Channel

end QueryFeed
