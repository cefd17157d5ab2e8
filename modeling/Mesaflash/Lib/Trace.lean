import Mesaflash.Lib.Loop

/-!
Programs that leave a trace.

A `Traced` program works on a state and appends events to a trace.  When it fails, the events
up to there remain.  `Records P x` says that every run of `x` extends the trace, and that a run
that ends with `a` extends it by events for which `P a` holds.  `Maintains I x` is
about the state alone.  There is one rule for each way to build a program.
-/

namespace Mesaflash.Lib

/-- A state, and what has happened so far. -/
structure Trace (ω σ : Type) where
  state : σ
  events : List ω

/-- A program that ends with an `α` or fails with an `ε`. -/
structure Traced (ε ω σ α : Type) where
  run : Trace ω σ → Except ε α × Trace ω σ

namespace Traced

variable {ε ω σ α β : Type}

instance : Monad (Traced ε ω σ) where
  pure a := ⟨fun t => (.ok a, t)⟩
  bind x f := ⟨fun t =>
    match x.run t with
    | (.ok a, t') => (f a).run t'
    | (.error e, t') => (.error e, t')⟩

/-- An event happens. -/
def emit (event : ω) : Traced ε ω σ Unit :=
  ⟨fun t => (.ok (), { t with events := t.events ++ [event] })⟩

/-- A step of the state. -/
def lift (f : σ → Except ε α × σ) : Traced ε ω σ α :=
  ⟨fun t => ((f t.state).1, { t with state := (f t.state).2 })⟩

/-- A computation that does not look at the state. -/
def ofExcept (x : Except ε α) : Traced ε ω σ α := ⟨fun t => (x, t)⟩

variable {t t' : Trace ω σ} {x : Traced ε ω σ α} {f : α → Traced ε ω σ β}

@[simp] lemma run_pure (a : α) (t : Trace ω σ) :
    (pure a : Traced ε ω σ α).run t = (.ok a, t) := rfl

@[simp] lemma run_emit_bind (event : ω) (f : Unit → Traced ε ω σ β) (t : Trace ω σ) :
    (emit event >>= f).run t = (f ()).run { t with events := t.events ++ [event] } := rfl

lemma ofExcept_ok_bind (a : α) (f : α → Traced ε ω σ β) : ofExcept (.ok a) >>= f = f a := rfl

lemma run_bind_of_ok {a : α} (h : x.run t = (.ok a, t')) : (x >>= f).run t = (f a).run t' := by
  simp only [Bind.bind, h]

lemma run_bind_of_error {e : ε} (h : x.run t = (.error e, t')) :
    (x >>= f).run t = (.error e, t') := by
  simp only [Bind.bind, h]

lemma run_lift_of_eq {g : σ → Except ε α × σ} {out : Except ε α} {s s' : σ} {events : List ω}
    (h : g s = (out, s')) : (lift g).run ⟨s, events⟩ = (out, ⟨s', events⟩) := by
  simp only [lift, h]

lemma run_lift_eq_ok {g : σ → Except ε α × σ} {a : α} :
    (lift g).run t = (.ok a, t') ↔ ∃ s, g t.state = (.ok a, s) ∧ t' = ⟨s, t.events⟩ := by
  simp only [lift, Prod.mk.injEq]
  constructor
  · rintro ⟨h, rfl⟩
    exact ⟨(g t.state).2, Prod.ext h rfl, rfl⟩
  · rintro ⟨s, h, rfl⟩
    simp [h]

lemma run_ofExcept_eq_ok {y : Except ε α} {a : α} :
    (ofExcept y : Traced ε ω σ α).run t = (.ok a, t') ↔ y = .ok a ∧ t = t' := by
  simp [ofExcept]

/-- A sequence ends when both of its parts do. -/
lemma run_bind_eq_ok {b : β} : (x >>= f).run t = (.ok b, t') ↔
    ∃ a t₁, x.run t = (.ok a, t₁) ∧ (f a).run t₁ = (.ok b, t') := by
  rcases hx : x.run t with ⟨e | a, t₁⟩
  · rw [run_bind_of_error hx]
    simp
  · rw [run_bind_of_ok hx]
    simp only [Prod.mk.injEq, Except.ok.injEq]
    constructor
    · intro h
      exact ⟨a, t₁, ⟨rfl, rfl⟩, h⟩
    · rintro ⟨_, _, ⟨rfl, rfl⟩, h⟩
      exact h

protected lemma bind_assoc {γ : Type} (g : β → Traced ε ω σ γ) :
    (x >>= f) >>= g = x >>= fun a => f a >>= g := by
  refine congrArg mk (funext fun t => ?_)
  change ((x >>= f) >>= g).run t = (x >>= fun a => f a >>= g).run t
  rcases hx : x.run t with ⟨e | a, t'⟩
  · rw [run_bind_of_error hx, run_bind_of_error (run_bind_of_error hx)]
  · rw [run_bind_of_ok hx]
    rcases hf : (f a).run t' with ⟨e | b, t''⟩
    · rw [run_bind_of_error hf, run_bind_of_error ((run_bind_of_ok hx).trans hf)]
    · rw [run_bind_of_ok hf, run_bind_of_ok ((run_bind_of_ok hx).trans hf)]

end Traced

open Traced

/-- Every run of `x` extends the trace, and if it ends, by events that satisfy `P`. -/
def Records {ε ω σ α : Type} (P : α → List ω → Prop) (x : Traced ε ω σ α) : Prop :=
  ∀ t, ∃ new, (x.run t).2.events = t.events ++ new ∧ ∀ a, (x.run t).1 = .ok a → P a new

namespace Records

variable {ε ω σ α β : Type} {P : α → List ω → Prop} {Q : β → List ω → Prop}
  {x : Traced ε ω σ α} {f : α → Traced ε ω σ β}

lemma pure {a : α} (h : P a []) : Records P (Pure.pure a : Traced ε ω σ α) := by
  intro t
  refine ⟨[], (List.append_nil _).symm, fun a' ha => ?_⟩
  obtain rfl := Except.ok.inj ha
  exact h

lemma emit {P : Unit → List ω → Prop} {event : ω} (h : P () [event]) :
    Records P (Traced.emit event : Traced ε ω σ Unit) :=
  fun _ => ⟨[event], rfl, fun _ _ => h⟩

lemma lift (g : σ → Except ε α × σ) (h : ∀ a, P a []) :
    Records P (Traced.lift g : Traced ε ω σ α) :=
  fun _ => ⟨[], (List.append_nil _).symm, fun a _ => h a⟩

lemma ofExcept (out : Except ε α) (h : ∀ a, P a []) :
    Records P (Traced.ofExcept out : Traced ε ω σ α) :=
  fun _ => ⟨[], (List.append_nil _).symm, fun a _ => h a⟩

/-- A sequence appends what its parts append. -/
lemma bind (hx : Records P x)
    (hf : ∀ a new, P a new → Records (fun b new' => Q b (new ++ new')) (f a)) :
    Records Q (x >>= f) := by
  intro t
  obtain ⟨new, hnew, hP⟩ := hx t
  rcases hrun : x.run t with ⟨e | a, t'⟩
  · rw [hrun] at hnew
    rw [run_bind_of_error hrun]
    exact ⟨new, hnew, fun b hb => by cases hb⟩
  · rw [hrun] at hnew hP
    rw [run_bind_of_ok hrun]
    obtain ⟨new', hnew', hQ⟩ := hf a new (hP a rfl) t'
    exact ⟨new ++ new', by rw [hnew', hnew, List.append_assoc], hQ⟩

lemma mono {P' : α → List ω → Prop} (hx : Records P x) (h : ∀ a new, P a new → P' a new) :
    Records P' x := by
  intro t
  obtain ⟨new, hnew, hP⟩ := hx t
  exact ⟨new, hnew, fun a ha => h a new (hP a ha)⟩

end Records

/-- Every run of `x` extends the trace. -/
abbrev Extends {ε ω σ α : Type} (x : Traced ε ω σ α) : Prop := Records (fun _ _ => True) x

namespace Extends

variable {ε ω σ α β : Type} {x : Traced ε ω σ α} {f : α → Traced ε ω σ β}

lemma pure (a : α) : Extends (Pure.pure a : Traced ε ω σ α) := Records.pure trivial

lemma lift (g : σ → Except ε α × σ) : Extends (Traced.lift g : Traced ε ω σ α) :=
  Records.lift g fun _ => trivial

lemma ofExcept (out : Except ε α) : Extends (Traced.ofExcept out : Traced ε ω σ α) :=
  Records.ofExcept out fun _ => trivial

lemma emit (event : ω) : Extends (Traced.emit event : Traced ε ω σ Unit) :=
  Records.emit trivial

lemma bind (hx : Extends x) (hf : ∀ a, Extends (f a)) : Extends (x >>= f) :=
  Records.bind hx fun a _ _ => hf a

/-- What has happened has happened. -/
lemma mem_emit {event : ω} {f : Unit → Traced ε ω σ β} (hf : Extends (f ())) (t : Trace ω σ) :
    event ∈ ((Traced.emit event >>= f).run t).2.events := by
  obtain ⟨new, hnew, -⟩ := hf { t with events := t.events ++ [event] }
  rw [run_emit_bind, hnew]
  simp

end Extends

/-! ### What is kept -/

/-- What holds of the state when a program starts holds when it ends. -/
def Maintains {ε ω σ α : Type} (I : σ → Prop) (x : Traced ε ω σ α) : Prop :=
  ∀ t a t', I t.state → x.run t = (.ok a, t') → I t'.state

namespace Maintains

variable {ε ω σ α β : Type} {I : σ → Prop} {x : Traced ε ω σ α} {f : α → Traced ε ω σ β}

lemma pure (a : α) : Maintains I (Pure.pure a : Traced ε ω σ α) := by
  intro t a' t' hI hrun
  obtain ⟨-, rfl⟩ := Prod.mk.inj hrun
  exact hI

lemma emit (event : ω) : Maintains I (Traced.emit event : Traced ε ω σ Unit) := by
  intro t a t' hI hrun
  obtain ⟨-, rfl⟩ := Prod.mk.inj hrun
  exact hI

lemma ofExcept (out : Except ε α) : Maintains I (Traced.ofExcept out : Traced ε ω σ α) := by
  intro t a t' hI hrun
  obtain ⟨-, rfl⟩ := run_ofExcept_eq_ok.1 hrun
  exact hI

lemma lift {g : σ → Except ε α × σ} (h : ∀ s a s', I s → g s = (.ok a, s') → I s') :
    Maintains I (Traced.lift g : Traced ε ω σ α) := by
  intro t a t' hI hrun
  obtain ⟨s, hg, rfl⟩ := run_lift_eq_ok.1 hrun
  exact h _ _ _ hI hg

/-- The rule for sequences. -/
lemma bind (hx : Maintains I x) (hf : ∀ a, Maintains I (f a)) : Maintains I (x >>= f) := by
  intro t b t' hI hrun
  obtain ⟨a, t₁, hfirst, hrest⟩ := run_bind_eq_ok.1 hrun
  exact hf a t₁ b t' (hx t a t₁ hI hfirst) hrest

end Maintains

/-! ### Without the trace -/

/-- `x` does to the state what `y` does. -/
def Implements {ε ω σ α : Type} (x : Traced ε ω σ α) (y : σ → Except ε (α × σ)) : Prop :=
  ∀ t, (x.run t).1.map (fun a => (a, (x.run t).2.state)) = y t.state

/-- `x` ends with what `y` yields. -/
def EndsWith {ε ω σ α : Type} (x : Traced ε ω σ α) (y : σ → Except ε α) : Prop :=
  ∀ t, (x.run t).1 = y t.state

section Implements

variable {ε ω σ α β : Type} {x : Traced ε ω σ α} {f : α → Traced ε ω σ β}
  {y : σ → Except ε (α × σ)}

lemma Implements.pure (a : α) :
    Implements (Pure.pure a : Traced ε ω σ α) fun s => .ok (a, s) := fun _ => rfl

lemma Implements.congr {y' : σ → Except ε (α × σ)} (hx : Implements x y) (h : ∀ s, y s = y' s) :
    Implements x y' := fun t => (hx t).trans (h t.state)

/-- An event is no step of the state. -/
lemma Implements.then_emit (hx : Implements x y) (event : α → ω) :
    Implements (x >>= fun a => Traced.emit (event a) >>= fun _ => Pure.pure a) y := by
  intro t
  rw [← hx t]
  rcases hrun : x.run t with ⟨e | a, t'⟩
  · rw [run_bind_of_error hrun]
  · rw [run_bind_of_ok hrun]
    rfl

/-- A run of `x` that ends is one of `y`. -/
lemma Implements.eq_ok (hx : Implements x y) {t t' : Trace ω σ} {a : α}
    (h : x.run t = (.ok a, t')) : y t.state = .ok (a, t'.state) := by
  rw [← hx t, h]
  rfl

/-- How a run of `x` ends, with `y`. -/
lemma Implements.run (hx : Implements x y) (t : Trace ω σ) :
    (∃ e t', x.run t = (.error e, t') ∧ y t.state = .error e) ∨
      ∃ a t', x.run t = (.ok a, t') ∧ y t.state = .ok (a, t'.state) := by
  have hsame := hx t
  rcases hrun : x.run t with ⟨e | a, t'⟩
  · rw [hrun] at hsame
    exact .inl ⟨e, t', rfl, hsame.symm⟩
  · rw [hrun] at hsame
    exact .inr ⟨a, t', rfl, hsame.symm⟩

/-- A run of `y` that ends is one of `x`. -/
lemma Implements.exists_run (hx : Implements x y) {t : Trace ω σ} {a : α} {s : σ}
    (h : y t.state = .ok (a, s)) : ∃ t', x.run t = (.ok a, t') ∧ t'.state = s := by
  rcases hx.run t with ⟨e, t', -, hy⟩ | ⟨a', t', hrun, hy⟩
  · rw [h] at hy
    cases hy
  · rw [h] at hy
    obtain ⟨rfl, rfl⟩ := Prod.mk.inj (Except.ok.inj hy)
    exact ⟨t', hrun, rfl⟩

/-- A sequence does what its parts do. -/
lemma Implements.bind {g : α → σ → Except ε (β × σ)} (hx : Implements x y)
    (hf : ∀ a, Implements (f a) (g a)) :
    Implements (x >>= f) fun s => y s >>= fun r => g r.1 r.2 := by
  intro t
  dsimp only
  rcases hx.run t with ⟨e, t', hrun, hy⟩ | ⟨a, t', hrun, hy⟩
  · rw [run_bind_of_error hrun, hy]
    rfl
  · rw [run_bind_of_ok hrun, hy]
    exact hf a t'

/-- A program maintains what the step of the state does that it stands for. -/
lemma Implements.maintains {I : σ → Prop} (hx : Implements x y)
    (hy : ∀ s a s', I s → y s = .ok (a, s') → I s') : Maintains I x := by
  intro t a t' hI hrun
  rcases hx.run t with ⟨e, _, hrun', -⟩ | ⟨a', _, hrun', hstep⟩
  · rw [hrun] at hrun'
    exact nomatch (Prod.mk.inj hrun').1
  · rw [hrun] at hrun'
    obtain ⟨-, rfl⟩ := Prod.mk.inj hrun'
    exact hy _ _ _ hI hstep

lemma Implements.endsWith (hx : Implements x y) :
    EndsWith x fun s => (y s).map Prod.fst := by
  intro t
  dsimp only
  rcases hx.run t with ⟨e, t', hrun, hy⟩ | ⟨a, t', hrun, hy⟩
  · rw [hrun, hy]
    rfl
  · rw [hrun, hy]
    rfl

lemma EndsWith.congr {z z' : σ → Except ε α} (hx : EndsWith x z) (h : ∀ s, z s = z' s) :
    EndsWith x z' := fun t => (hx t).trans (h t.state)

lemma EndsWith.bind {g : α → σ → Except ε β} (hx : Implements x y)
    (hf : ∀ a, EndsWith (f a) (g a)) : EndsWith (x >>= f) fun s => y s >>= fun r => g r.1 r.2 := by
  intro t
  dsimp only
  rcases hx.run t with ⟨e, t', hrun, hy⟩ | ⟨a, t', hrun, hy⟩
  · rw [run_bind_of_error hrun, hy]
    rfl
  · rw [run_bind_of_ok hrun, hy]
    exact hf a t'

/-- The state does not matter behind the first part. -/
lemma EndsWith.bind_const {z : σ → Except ε α} {g : α → Except ε β} (hx : EndsWith x z)
    (hf : ∀ a, EndsWith (f a) fun _ => g a) : EndsWith (x >>= f) fun s => z s >>= g := by
  intro t
  have hsame := hx t
  rcases hrun : x.run t with ⟨e | a, t'⟩
  · rw [hrun] at hsame
    rw [run_bind_of_error hrun]
    dsimp only
    rw [← hsame]
    rfl
  · rw [hrun] at hsame
    rw [run_bind_of_ok hrun]
    dsimp only
    rw [← hsame]
    exact hf a t'

end Implements

end Mesaflash.Lib
