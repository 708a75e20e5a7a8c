import AnyCable.Lib.Transition

/-! # A ticker loop stopped through a channel field

The Go loop

    for {
      select {
      case <-x.ch:
        return
      case <-time.After(d):
        body()
      }
    }

runs beside a stopper that does `close(x.ch)` and then `x.ch = nil`. A
`select` evaluates its channel operands each time it is entered, so the loop
reads the field afresh in every round: the closed channel is ready at once,
and a nil channel never is. A loop that is in its body while the stopper runs
finds nil at its next `select`, and from there only the timer fires: it never
returns and runs its body forever (`outlives_stopper`). A loop already waiting
on the channel when it is closed can return.

The body is a relation on the loop's data, so that a body that reads the world
(a clock, a size) can be modelled; `Inv` is what keeps it enabled.
-/

namespace StopLoop
set_option autoImplicit false

inductive Field where
  | opened
  | closed
  | nil
  deriving DecidableEq

inductive Pc where
  | top
  | waiting (onChannel : Bool)
  | body
  | returned
  deriving DecidableEq

structure Loop (σ : Type) where
  field : Field
  pc : Pc
  data : σ
  rounds : Nat

variable {σ : Type}

def start (data : σ) : Loop σ := ⟨.opened, .top, data, 0⟩

inductive Step (body : σ → σ → Prop) : Loop σ → Loop σ → Prop
  | enterOpen (l : Loop σ) (hPc : l.pc = .top) (hField : l.field = .opened) :
      Step body l { l with pc := .waiting true }
  | enterClosed (l : Loop σ) (hPc : l.pc = .top) (hField : l.field = .closed) :
      Step body l { l with pc := .returned }
  | enterNil (l : Loop σ) (hPc : l.pc = .top) (hField : l.field = .nil) :
      Step body l { l with pc := .waiting false }
  | wake (l : Loop σ) (hPc : l.pc = .waiting true) (hClosed : l.field ≠ .opened) :
      Step body l { l with pc := .returned }
  | tick (l : Loop σ) (onChannel : Bool) (hPc : l.pc = .waiting onChannel) :
      Step body l { l with pc := .body }
  | run (l : Loop σ) (data : σ) (hPc : l.pc = .body) (hBody : body l.data data) :
      Step body l { l with pc := .top, data, rounds := l.rounds + 1 }
  | close (l : Loop σ) (hField : l.field = .opened) : Step body l { l with field := .closed }
  | clear (l : Loop σ) (hField : l.field = .closed) : Step body l { l with field := .nil }

def OutlivesStopper (body : σ → σ → Prop) (l₀ : Loop σ) : Prop :=
  ∃ l, Relation.ReflTransGen (Step body) l₀ l ∧ l.field = .nil ∧
    (∀ l', Relation.ReflTransGen (Step body) l l' → l'.pc ≠ .returned) ∧
    ∀ n, ∃ l', Relation.ReflTransGen (Step body) l l' ∧ n ≤ l'.rounds

/-- The stopper is done and the loop does not hold the channel: it can only
ever wait on nil. -/
structure Stranded (l : Loop σ) : Prop where
  field : l.field = .nil
  live : l.pc ≠ .returned
  offChannel : l.pc ≠ .waiting true

section Body
variable {body : σ → σ → Prop} {l l' : Loop σ}

theorem stranded_step (h : Stranded l) (hStep : Step body l l') : Stranded l' := by
  obtain ⟨hField, hLive, hOff⟩ := h
  cases hStep with
  | enterOpen hPc hOpen => simp [hField] at hOpen
  | enterClosed hPc hClosed => simp [hField] at hClosed
  | enterNil => exact ⟨hField, by simp, by simp⟩
  | wake hPc => exact absurd hPc hOff
  | tick => exact ⟨hField, by simp, by simp⟩
  | run => exact ⟨hField, by simp, by simp⟩
  | close hOpen => simp [hField] at hOpen
  | clear hClosed => simp [hField] at hClosed

theorem stranded_run (h : Stranded l) (hRun : Relation.ReflTransGen (Step body) l l') : Stranded l' :=
  Transition.invariant h (fun _ _ h hStep => stranded_step h hStep) hRun

theorem stranded_round (h : Stranded l) {data : σ} (hData : body l.data data) :
    ∃ l', Relation.ReflTransGen (Step body) l l' ∧ l'.rounds = l.rounds + 1 ∧ l'.data = data := by
  have hAtBody : ∀ k : Loop σ, k.pc = .body → body k.data data →
      Relation.ReflTransGen (Step body) k { k with pc := .top, data, rounds := k.rounds + 1 } :=
    fun k hPc hk => .single (.run k data hPc hk)
  rcases hPc : l.pc with _ | onChannel | _ | _
  · have hEnter : Step body l _ := .enterNil l hPc h.field
    have hTick : Step body _ _ := .tick { l with pc := .waiting false } false rfl
    exact ⟨_, (Relation.ReflTransGen.single hEnter).tail hTick |>.trans (hAtBody _ rfl hData), rfl, rfl⟩
  · have hTick : Step body l _ := .tick l onChannel hPc
    exact ⟨_, (Relation.ReflTransGen.single hTick).trans (hAtBody _ rfl hData), rfl, rfl⟩
  · exact ⟨_, hAtBody l hPc hData, rfl, rfl⟩
  · exact absurd hPc h.live

theorem stranded_rounds (Inv : σ → Prop) (hBody : ∀ d, Inv d → ∃ d', body d d' ∧ Inv d')
    (h : Stranded l) (hInv : Inv l.data) (n : Nat) :
    ∃ l', Relation.ReflTransGen (Step body) l l' ∧ l.rounds + n ≤ l'.rounds ∧ Inv l'.data := by
  induction n with
  | zero => exact ⟨l, .refl, by simp, hInv⟩
  | succ n ih =>
    obtain ⟨k, hRun, hRounds, hInvK⟩ := ih
    obtain ⟨d, hd, hInvD⟩ := hBody k.data hInvK
    obtain ⟨k', hRun', hRounds', hData⟩ := stranded_round (stranded_run h hRun) hd
    exact ⟨k', hRun.trans hRun', by omega, hData ▸ hInvD⟩

theorem reach_stranded (data : σ) :
    ∃ l, Relation.ReflTransGen (Step body) (start data) l ∧ Stranded l ∧ l.data = data := by
  have hEnter : Step body (start data) _ := .enterOpen (start data) rfl rfl
  have hTick : Step body _ _ := .tick { start data with pc := .waiting true } true rfl
  have hClose : Step body _ _ := .close { start data with pc := .body } rfl
  have hClear : Step body _ _ := .clear { start data with pc := .body, field := .closed } rfl
  exact ⟨_, ((((Relation.ReflTransGen.single hEnter).tail hTick).tail hClose).tail hClear),
    ⟨rfl, by simp, by simp⟩, rfl⟩

theorem outlives_stopper (Inv : σ → Prop) (hBody : ∀ d, Inv d → ∃ d', body d d' ∧ Inv d')
    (data : σ) (hInv : Inv data) : OutlivesStopper body (start data) := by
  obtain ⟨l, hReach, hStranded, hData⟩ :
      ∃ l, Relation.ReflTransGen (Step body) (start data) l ∧ Stranded l ∧ l.data = data :=
    reach_stranded data
  refine ⟨l, hReach, hStranded.field, fun l' hRun => (stranded_run hStranded hRun).live, fun n => ?_⟩
  obtain ⟨l', hRun, hRounds, -⟩ := stranded_rounds Inv hBody hStranded (hData ▸ hInv) n
  exact ⟨l', hRun, by omega⟩

end Body

end StopLoop
