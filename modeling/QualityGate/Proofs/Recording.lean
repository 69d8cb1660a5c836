import Mathlib.Tactic.Choose
import QualityGate.Log.World

namespace QualityGate

namespace Log

/-- Work within a span is the work that it is outside. -/
class LawfulJournal (m : Type → Type) [Monad m] [Journal m] : Prop where
  within_map {α β : Type} (span : Span) (f : α → β) (x : m α) :
    Journal.within span (f <$> x) = f <$> Journal.within span x

instance {σ : Type} : LawfulJournal (WorldM σ) where
  within_map _ _ _ := rfl

instance {m : Type → Type} [Monad m] [LawfulMonad m] [Journal m] [LawfulJournal m] :
    LawfulJournal (Fragile m) where
  within_map span f x := by
    change Journal.within span (f <$> x).run = (f <$> Journal.within span x).run
    rw [ExceptT.run_map, ExceptT.run_map, LawfulJournal.within_map]
    rfl

instance {m : Type → Type} [Monad m] [LawfulMonad m] [Journal m] [LawfulJournal m] :
    LawfulJournal (Stalling m) where
  within_map span f x := by
    refine OptionT.ext ?_
    change Journal.within span (f <$> x).run = (f <$> Journal.within span x).run
    rw [OptionT.run_map, OptionT.run_map, LawfulJournal.within_map]
    rfl

theorem WorldM.bind_eq {σ α β : Type} (x : WorldM σ α) (f : α → WorldM σ β) (w : World σ) :
    (x >>= f) w = f (x w).1 (x w).2 := rfl

end Log

/-- Whatever comes of a computation is as `P` says. -/
def Yields {m : Type → Type} [Monad m] {α : Type} (P : α → Prop) (x : m α) : Prop :=
  ∃ z : m {a // P a}, x = Subtype.val <$> z

namespace Yields

variable {m : Type → Type} [Monad m] [LawfulMonad m] {α β : Type} {P : α → Prop} {Q : β → Prop}

theorem pure {a : α} (h : P a) : Yields P (Pure.pure a : m α) :=
  ⟨Pure.pure ⟨a, h⟩, by simp⟩

theorem bind {x : m α} {f : α → m β} (h : ∀ a, Yields Q (f a)) : Yields Q (x >>= f) := by
  choose z hz using h
  refine ⟨x >>= z, ?_⟩
  rw [map_bind]
  exact bind_congr hz

theorem bind_of {x : m α} {f : α → m β} (hx : Yields P x) (h : ∀ a, P a → Yields Q (f a)) :
    Yields Q (x >>= f) := by
  obtain ⟨z, rfl⟩ := hx
  rw [bind_map_left]
  exact bind fun a => h a.1 a.2

theorem run {x : Log.Fragile m α} (h : Yields P x) :
    Yields (fun r => ∀ a, r = .ok a → P a) x.run := by
  obtain ⟨z, rfl⟩ := h
  refine ⟨(fun r => ⟨Except.map Subtype.val r, fun a ha => ?_⟩) <$> z.run, ?_⟩
  · cases r with
    | error b => cases ha
    | ok p =>
      cases ha
      exact p.2
  · rw [ExceptT.run_map, Functor.map_map]

theorem of_run_eq_some {σ : Type} {x : Log.Stalling (Log.WorldM σ) α} (h : Yields P x)
    {w : Log.World σ} {a : α} (ha : (x.run w).1 = some a) : P a := by
  obtain ⟨z, rfl⟩ := h
  rw [OptionT.run_map] at ha
  obtain ⟨p, -, rfl⟩ := Option.map_eq_some_iff.mp ha
  exact p.2

end Yields

abbrev Recording (τ : Type) (m : Type → Type) := StateT (List τ) m

namespace Recording

open Log (Journal LawfulJournal event)

variable {τ α β : Type} {m : Type → Type} [Monad m]

instance [Journal m] : Journal (Recording τ m) where
  record e := StateT.lift (Journal.record e)
  within span work := fun record => Journal.within span (work record)

instance [Journal m] [LawfulMonad m] [LawfulJournal m] : LawfulJournal (Recording τ m) where
  within_map span f x := by
    funext record
    change Journal.within span ((f <$> x).run record) = (f <$> Journal.within span x).run record
    rw [StateT.run_map, StateT.run_map, LawfulJournal.within_map]
    rfl

/-- One more entry for the record. -/
def note (t : τ) : Recording τ m Unit :=
  modify (· ++ [t])

/-- What `x` adds to the record and what it gives are as `P` says, whatever has been recorded
before, and apart from the record `x` does what `y` does. -/
def Records (P : List τ → α → Prop) (x : Recording τ m α) (y : m α) : Prop :=
  ∃ z : m {p : List τ × α // P p.1 p.2},
    (∀ record, x.run record = (fun p => (p.1.2, record ++ p.1.1)) <$> z) ∧
      y = (fun p => p.1.2) <$> z

variable [LawfulMonad m] {P : List τ → α → Prop} {Q : List τ → β → Prop}
  {x : Recording τ m α} {y : m α}

theorem Records.mono {R : List τ → α → Prop} (h : Records P x y)
    (hPR : ∀ l a, P l a → R l a) : Records R x y := by
  obtain ⟨z, hx, hy⟩ := h
  refine ⟨(fun p => ⟨p.1, hPR p.1.1 p.1.2 p.2⟩) <$> z, fun record => ?_, ?_⟩
  · rw [hx, Functor.map_map]
  · rw [hy, Functor.map_map]

theorem Records.pure {a : α} (h : P [] a) :
    Records P (Pure.pure a : Recording τ m α) (Pure.pure a) := by
  refine ⟨Pure.pure ⟨([], a), h⟩, fun record => ?_, ?_⟩
  · simp
  · simp

omit [LawfulMonad m] in
theorem Records.ite {c : Prop} [Decidable c] {x' : Recording τ m α} {y' : m α}
    (h : c → Records P x y) (h' : ¬c → Records P x' y') :
    Records P (if c then x else x') (if c then y else y') := by
  by_cases hc : c
  · simpa only [if_pos hc] using h hc
  · simpa only [if_neg hc] using h' hc

theorem Records.bind {f : α → Recording τ m β} {g : α → m β} (h : Records P x y)
    (hf : ∀ l a, P l a → Records (fun l' b => Q (l ++ l') b) (f a) (g a)) :
    Records Q (x >>= f) (y >>= g) := by
  obtain ⟨z, hx, hy⟩ := h
  choose k hk hk' using fun p : {p : List τ × α // P p.1 p.2} => hf p.1.1 p.1.2 p.2
  refine ⟨z >>= fun p => (fun q => ⟨(p.1.1 ++ q.1.1, q.1.2), q.2⟩) <$> k p,
    fun record => ?_, ?_⟩
  · rw [StateT.run_bind, hx]
    simp only [bind_map_left, hk, map_bind, Functor.map_map, List.append_assoc]
  · rw [hy]
    simp only [bind_map_left, hk', map_bind, Functor.map_map]

theorem Records.yields (h : Records P x y) : Yields (fun a => ∃ l, P l a) y := by
  obtain ⟨z, -, rfl⟩ := h
  refine ⟨(fun p => ⟨p.1.2, p.1.1, p.2⟩) <$> z, ?_⟩
  rw [Functor.map_map]

theorem Records.lift (y : m α) :
    Records (fun l _ => l = []) (StateT.lift y : Recording τ m α) y := by
  refine ⟨(fun a => ⟨([], a), rfl⟩) <$> y, fun record => ?_, ?_⟩
  · simp
  · simp

theorem Records.note_bind (t : τ) (h : Records (fun l a => P (t :: l) a) x y) :
    Records P (note t >>= fun _ => x) y := by
  obtain ⟨z, hx, hy⟩ := h
  refine ⟨(fun p => ⟨(t :: p.1.1, p.1.2), p.2⟩) <$> z, fun record => ?_, ?_⟩
  · simp [note, hx]
  · rw [hy, Functor.map_map]

theorem Records.bind_note {R : List τ → α → Prop} (t : α → τ) (h : Records P x y)
    (hPR : ∀ l a, P l a → R (l ++ [t a]) a) :
    Records R (x >>= fun a => note (t a) >>= fun _ => Pure.pure a) y := by
  obtain ⟨z, hx, hy⟩ := h
  refine ⟨(fun p => ⟨(p.1.1 ++ [t p.1.2], p.1.2), hPR p.1.1 p.1.2 p.2⟩) <$> z,
    fun record => ?_, ?_⟩
  · simp [note, hx]
  · rw [hy, Functor.map_map]

section Journal

variable [Journal m]

theorem Records.event_bind {k : Recording τ m α} {k' : m α} (level : Log.Level)
    (scope : Log.Scope) (message : String) (others : List String) (h : Records P k k') :
    Records P (event level scope message others >>= fun _ => k)
      (event level scope message others >>= fun _ => k') := by
  refine (Records.lift (Journal.record ⟨level, scope, message, others⟩)).bind fun l _ hl => ?_
  subst hl
  exact h

omit [LawfulMonad m] in
theorem Records.within [LawfulJournal m] (span : Log.Span) (h : Records P x y) :
    Records P (Journal.within span x) (Journal.within span y) := by
  obtain ⟨z, hx, hy⟩ := h
  refine ⟨Journal.within span z, fun record => ?_, ?_⟩
  · rw [← LawfulJournal.within_map, ← hx]
    rfl
  · rw [← LawfulJournal.within_map, ← hy]

end Journal

omit [Monad m] [LawfulMonad m] in
theorem bind_eq {σ : Type} (x : Recording τ (Log.WorldM σ) α)
    (f : α → Recording τ (Log.WorldM σ) β) (l : List τ) (w : Log.World σ) :
    (x >>= f) l w = f (x l w).1.1 (x l w).1.2 (x l w).2 := rfl

/-- In a world, a computation with a record has the result and the world that it has without, and
what it records comes after what has been recorded before. -/
theorem Records.run_append {σ : Type} {x : Recording τ (Log.WorldM σ) α} {y : Log.WorldM σ α}
    (h : Records P x y) (l : List τ) (w : Log.World σ) :
    ∃ l', P l' (y w).1 ∧ x l w = (((y w).1, l ++ l'), (y w).2) := by
  obtain ⟨z, hx, rfl⟩ := h
  exact ⟨(z w).1.1.1, (z w).1.2, congrFun (hx l) w⟩

theorem Records.run_eq {σ : Type} {x : Recording τ (Log.WorldM σ) α} {y : Log.WorldM σ α}
    (h : Records P x y) (w : Log.World σ) :
    ∃ l, P l (y w).1 ∧ x [] w = (((y w).1, l), (y w).2) := by
  simpa only [List.nil_append] using h.run_append [] w

theorem Records.of_run {σ : Type} {x : Recording τ (Log.WorldM σ) α} {y : Log.WorldM σ α}
    (h : Records P x y) {w w' : Log.World σ} {a : α} {l : List τ} (hx : x [] w = ((a, l), w')) :
    y w = (a, w') ∧ P l a := by
  obtain ⟨l', hp, he⟩ := h.run_eq w
  simp only [hx] at he
  obtain ⟨⟨rfl, rfl⟩, rfl⟩ := he
  exact ⟨rfl, hp⟩

end Recording
end QualityGate
