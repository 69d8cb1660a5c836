import QualityGate.Error
import QualityGate.Text.Utf8

namespace QualityGate

structure Command where
  program : String
  args : List String
deriving DecidableEq, Repr

structure Completion where
  /-- There is none for a command that a signal put an end to. -/
  exitCode : Option Nat
  stdout : List UInt8
  stderr : List UInt8
deriving DecidableEq, Repr

/-- Whatever carries commands out. Whether a command may break down or never end is up to the
computations. -/
structure Host (m : Type → Type) where
  perform : Command → m (Except SpawnError Completion)

def Host.lift {m n : Type → Type} [MonadLiftT m n] (h : Host m) : Host n where
  perform c := liftM (h.perform c)

end QualityGate
