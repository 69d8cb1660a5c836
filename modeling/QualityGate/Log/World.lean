import QualityGate.Log.Event

namespace QualityGate.Log

/-- What a computation runs in. The span is that of the work that is going on. -/
structure World (σ : Type) where
  state : σ
  journal : List Entry
  span : Option Span

def World.start {σ : Type} (s : σ) : World σ :=
  ⟨s, [], none⟩

abbrev WorldM (σ : Type) := StateM (World σ)

variable {σ : Type}

instance : Journal (WorldM σ) where
  record e := modify fun w => { w with journal := w.journal ++ [⟨e, w.span⟩] }
  within span work := do
    let outer := (← get).span
    modify fun w => { w with span := some span }
    let a ← work
    modify fun w => { w with span := outer }
    return a

def WorldM.step {α : Type} (f : σ → α × σ) : WorldM σ α :=
  modifyGet fun w => ((f w.state).1, { w with state := (f w.state).2 })

structure Breakdown where
  /-- What standard error has been told up to then. -/
  told : String
  /-- Where in the program, or in one of its libraries. -/
  place : String
  words : String
deriving DecidableEq, Repr

abbrev Fragile (m : Type → Type) := ExceptT Breakdown m

/-- A breakdown ends the span that it happens in. -/
instance {m : Type → Type} [Monad m] [Journal m] : Journal (Fragile m) where
  record e := ExceptT.lift (Journal.record e)
  within span work := ExceptT.mk (Journal.within span work.run)

/-- Computations that may never come to an end, so that there is no result. -/
abbrev Stalling (m : Type → Type) := OptionT m

instance {m : Type → Type} [Monad m] [Journal m] : Journal (Stalling m) where
  record e := OptionT.lift (Journal.record e)
  within span work := OptionT.mk (Journal.within span work.run)

structure Thread where
  name : String
  number : Nat
  /-- The calls that the thread is in, if the environment asks for them. -/
  trace : Option String
deriving DecidableEq, Repr

def Breakdown.report (t : Thread) (b : Breakdown) : String :=
  b.told ++ "\nthread '" ++ t.name ++ "' (" ++ toString t.number ++ ") panicked at " ++
    b.place ++ ":\n" ++ b.words ++ "\n" ++ t.trace.getD
      "note: run with `RUST_BACKTRACE=1` environment variable to display a backtrace\n"

end QualityGate.Log
