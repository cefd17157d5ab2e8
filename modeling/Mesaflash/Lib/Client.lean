import Mesaflash.Lib.Correspond
import Mesaflash.Lib.Fuel

/-!
Clients of a service.

A client asks for one thing after the other, and what it asks for next may depend on the
replies that it got.  If two servers answer alike whatever the client asks for, it gets the
same result from both.
-/

namespace Mesaflash.Lib

variable {Q P α σ τ ε ε' : Type}

/-- A client that asks with `Q`, gets replies `P`, and has the result `α`. -/
inductive Client (Q P α : Type) where
  | done (a : α)
  | ask (q : Q) (next : P → Client Q P α)

namespace Client

/-- The client is served. -/
def run (serve : Q → σ → Except ε (P × σ)) : Client Q P α → σ → Except ε (α × σ)
  | done a, s => .ok (a, s)
  | ask q next, s => serve q s >>= fun r => (next r.1).run serve r.2

/-- All that the client asks for satisfies `V`, whatever the replies are. -/
inductive Asks (V : Q → Prop) : Client Q P α → Prop
  | done (a : α) : Asks V (done a)
  | ask {q : Q} {next : P → Client Q P α} (hq : V q) (hnext : ∀ r, Asks V (next r)) :
      Asks V (ask q next)

/-- A client that asks for less may be asked for more. -/
lemma Asks.mono {V W : Q → Prop} {c : Client Q P α} (h : c.Asks V) (hVW : ∀ q, V q → W q) :
    c.Asks W := by
  induction h with
  | done a => exact .done a
  | ask hq _ ih => exact .ask (hVW _ hq) ih

/-- **Two servers that answer alike are the same to a client.** -/
lemma corresponds_run {V : Q → Prop} {R : σ → τ → Prop} {E : ε → ε' → Prop}
    {serve : Q → σ → Except ε (P × σ)} {serve' : Q → τ → Except ε' (P × τ)}
    (hserve : ∀ q s t, V q → R s t →
      Corresponds (fun x y => x.1 = y.1 ∧ R x.2 y.2) E (serve q s) (serve' q t))
    {c : Client Q P α} (hc : c.Asks V) : ∀ {s : σ} {t : τ}, R s t →
    Corresponds (fun x y => x.1 = y.1 ∧ R x.2 y.2) E (c.run serve s) (c.run serve' t) := by
  induction hc with
  | done a => exact fun h => .ok ⟨rfl, h⟩
  | ask hq _ ih =>
      intro s t h
      refine (hserve _ s t hq h).bind ?_
      rintro ⟨r, s'⟩ ⟨_, t'⟩ ⟨rfl, h'⟩
      exact ih r h'

/-- **A server with loops that answers like another one** is the same to a client, who waits as
long as the loops take. -/
lemma endsIn_run {stuck : ε} {V : Q → Prop} {R : σ → τ → Prop} {E : ε → ε' → Prop}
    {serve : ℕ → Q → Prog ε σ P} {serve' : Q → τ → Except ε' (P × τ)}
    (hserve : ∀ q s t, V q → R s t → ∃ r, EndsIn stuck (fun fuel => serve fuel q) s r ∧
      Corresponds (fun x y => x.1 = y.1 ∧ R x.2 y.2) E r (serve' q t))
    {c : Client Q P α} (hc : c.Asks V) {s : σ} {t : τ} (h : R s t) :
    ∃ r, EndsIn stuck (fun fuel => c.run (serve fuel)) s r ∧
      Corresponds (fun x y => x.1 = y.1 ∧ R x.2 y.2) E r (c.run serve' t) := by
  induction hc generalizing s t with
  | done a => exact ⟨.ok (a, s), endsIn_const (pure a : Prog ε σ α) s, .ok ⟨rfl, h⟩⟩
  | @ask q next hq _ ih =>
      obtain ⟨r, hend, hr⟩ := hserve q s t hq h
      rw [run]
      cases hr' : serve' q t with
      | ok y =>
          rw [hr'] at hr
          obtain ⟨⟨p, s'⟩, rfl, rfl, h'⟩ := hr.of_ok'
          obtain ⟨r, hrest, hr⟩ := ih y.1 h'
          exact ⟨r, hend.bind (q := fun fuel p => (next p).run (serve fuel)) hrest, hr⟩
      | error e' =>
          rw [hr'] at hr
          cases hr with
          | error he =>
              exact ⟨_, hend.bind_error (q := fun fuel p => (next p).run (serve fuel)), .error he⟩

end Client

end Mesaflash.Lib
