import Mathlib.Logic.Basic

/-! # Buffered channels

A Go channel `make(chan T, n)` with `n > 0` is a FIFO buffer of capacity `n`.
A send on a full buffer and a receive on an empty one block; a blocked
operation is simply a step that is not enabled, so both are partial.
-/

namespace GoChan
set_option autoImplicit false

/-- A buffered channel; the buffer never exceeds the capacity. -/
structure Chan (α : Type) where
  cap : Nat
  buf : List α
  buf_le : buf.length ≤ cap
  deriving DecidableEq

variable {α : Type}

def make (cap : Nat) : Chan α := ⟨cap, [], Nat.zero_le _⟩

def len (c : Chan α) : Nat := c.buf.length

/-- `ch <- x`; `none` when the buffer is full and the sender waits. -/
def send (c : Chan α) (x : α) : Option (Chan α) :=
  if h : c.buf.length < c.cap then
    some ⟨c.cap, c.buf ++ [x], by simp only [List.length_append, List.length_singleton]; omega⟩
  else none

/-- `x := <-ch`; `none` when the buffer is empty and the receiver waits. -/
def recv (c : Chan α) : Option (α × Chan α) :=
  match c with
  | ⟨_, [], _⟩ => none
  | ⟨cap, x :: xs, h⟩ => some (x, ⟨cap, xs, by simp only [List.length_cons] at h; omega⟩)

@[simp] theorem make_buf (cap : Nat) : (make cap : Chan α).buf = [] := rfl

@[simp] theorem make_cap (cap : Nat) : (make cap : Chan α).cap = cap := rfl

theorem len_le_cap (c : Chan α) : len c ≤ c.cap := c.buf_le

theorem send_eq_some_iff (c c' : Chan α) (x : α) :
    send c x = some c' ↔ len c < c.cap ∧ c'.cap = c.cap ∧ c'.buf = c.buf ++ [x] := by
  unfold send len
  split
  · constructor
    · rintro ⟨⟩
      exact ⟨‹_›, rfl, rfl⟩
    · rintro ⟨-, hCap, hBuf⟩
      obtain ⟨cap, buf, _⟩ := c'
      simp only at hCap hBuf
      subst hCap hBuf
      rfl
  · simp only [reduceCtorEq, false_iff, not_and]
    intro h
    exact absurd h ‹_›

theorem send_eq_none_iff (c : Chan α) (x : α) : send c x = none ↔ len c = c.cap := by
  have hLe := len_le_cap c
  unfold send len at *
  split <;> simp only [reduceCtorEq, true_iff, false_iff] <;> omega

theorem recv_eq_some_iff (c c' : Chan α) (x : α) :
    recv c = some (x, c') ↔ c.buf = x :: c'.buf ∧ c'.cap = c.cap := by
  obtain ⟨cap, buf, h⟩ := c
  obtain ⟨cap', buf', h'⟩ := c'
  cases buf with
  | nil => simp [recv]
  | cons y ys =>
    simp only [recv, Option.some.injEq, Prod.mk.injEq, Chan.mk.injEq, List.cons.injEq]
    constructor
    · rintro ⟨rfl, rfl, rfl⟩
      exact ⟨⟨rfl, rfl⟩, rfl⟩
    · rintro ⟨⟨rfl, rfl⟩, rfl⟩
      exact ⟨rfl, rfl, rfl⟩

theorem recv_eq_none_iff (c : Chan α) : recv c = none ↔ c.buf = [] := by
  obtain ⟨cap, buf, h⟩ := c
  cases buf <;> simp [recv]

theorem len_of_recv {c c' : Chan α} {x : α} (h : recv c = some (x, c')) :
    len c = len c' + 1 ∧ c'.cap = c.cap := by
  obtain ⟨hBuf, hCap⟩ := (recv_eq_some_iff c c' x).mp h
  exact ⟨by simp [len, hBuf], hCap⟩

theorem len_of_send {c c' : Chan α} {x : α} (h : send c x = some c') :
    len c' = len c + 1 ∧ c'.cap = c.cap := by
  obtain ⟨-, hCap, hBuf⟩ := (send_eq_some_iff c c' x).mp h
  exact ⟨by simp [len, hBuf], hCap⟩

theorem exists_recv_iff (c : Chan α) : (∃ x c', recv c = some (x, c')) ↔ 0 < len c := by
  constructor
  · rintro ⟨x, c', h⟩
    have hLen := (len_of_recv h).1
    omega
  · intro hPos
    obtain ⟨x, rest, hBuf⟩ := List.exists_cons_of_ne_nil (List.ne_nil_of_length_pos hPos)
    have hRest : rest.length ≤ c.cap := by
      have hLe := c.buf_le
      rw [hBuf, List.length_cons] at hLe
      omega
    exact ⟨x, ⟨c.cap, rest, hRest⟩, (recv_eq_some_iff _ _ _).mpr ⟨hBuf, rfl⟩⟩

theorem exists_send_iff (c : Chan α) (x : α) : (∃ c', send c x = some c') ↔ len c < c.cap := by
  rw [← Option.ne_none_iff_exists', Ne, send_eq_none_iff]
  have hLe := len_le_cap c
  omega

theorem foldlM_send_replicate (k : Nat) (x : α) (c : Chan α) (hRoom : len c + k ≤ c.cap) :
    ∃ c', (List.replicate k x).foldlM send c = some c' ∧ c'.cap = c.cap ∧ len c' = len c + k := by
  induction k generalizing c with
  | zero => exact ⟨c, rfl, rfl, rfl⟩
  | succ k ih =>
    obtain ⟨c₁, hSend⟩ := (exists_send_iff c x).mpr (by omega)
    obtain ⟨hLen₁, hCap₁⟩ := len_of_send hSend
    obtain ⟨c', hFold, hCap, hLen⟩ := ih c₁ (by omega)
    refine ⟨c', ?_, hCap.trans hCap₁, by omega⟩
    rw [List.replicate_succ, List.foldlM_cons, hSend]
    exact hFold

end GoChan
