import QualityGate.Host
import QualityGate.Log.World
import QualityGate.Shell.Run
import QualityGate.Workplace

namespace QualityGate.Sandbox

open Shell

def depth : Nat := 1000000

/-- The session that a command starts with: nothing to read, and its output is kept. -/
def session (w : Workplace) : Session :=
  .start w.tree w.cwd [.nothing, .buffer [], .buffer []] [(0, 0), (1, 1), (2, 2)] w.environment

def completionOf (flow : Flow) (s : Session) : Completion :=
  let code := match flow with
    | .died _ => none
    | _ => some s.status
  ⟨code, s.pending 1, s.pending 2⟩

def hasNul (c : Command) : Bool :=
  (c.program :: c.args).any fun s => s.toList.contains '\x00'

def argumentLimit : Nat := 131072

def perform (c : Command) (w : Workplace) : Except SpawnError Completion × Workplace :=
  if hasNul c then (.error .nulByte, w)
  else match Program.find w.tree w.cwd c.program with
    | .error e => (.error e, w)
    | .ok program =>
      if c.args.any fun a => argumentLimit ≤ a.utf8ByteSize then (.error .argumentsTooLong, w)
      else
        let (flow, s) := (runProgram depth program c.args).run (session w)
        (.ok (completionOf flow s), { w with tree := s.tree })

def host : Host (Log.WorldM Workplace) where
  perform c := Log.WorldM.step (perform c)

end QualityGate.Sandbox
