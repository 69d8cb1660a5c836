import QualityGate.Log.Directive

namespace QualityGate.Log

structure Filter where
  directives : List Directive
deriving DecidableEq, Repr

namespace Filter

def ofLevel (level : Level) : Filter :=
  ⟨[.ofLevel level]⟩

/-- The directive that decides about an event. The last of those that are equally special counts. -/
def deciding? (f : Filter) (e : Event) : Option Directive :=
  (f.directives.filter fun d => d.isStatic && d.concerns e).foldl (fun best d =>
    match best with
    | some b => if b.isLessSpecial d then some d else some b
    | none => some d) none

def widest (f : Filter) : Nat :=
  (f.directives.map Directive.bound).foldl max 0

/-- Spans are only known if a filter looks at their values or at events as important. -/
def seesSpans (f : Filter) : Bool :=
  Span.level.verbosity ≤ f.widest ||
    f.directives.any fun d => d.field.any fun w => w.wanted.isSome

def dynamic (f : Filter) : List Directive :=
  (f.directives.filter Directive.isDynamic).foldl (fun ds d =>
    ds.filter (fun e => !e.sameEvents d) ++ [d]) []

def boundIn (f : Filter) (s : Span) : Nat :=
  if f.seesSpans then ((f.dynamic.filter (·.covers s)).map Directive.bound).foldl max 0 else 0

def admits (f : Filter) (entry : Entry) : Bool :=
  let within (bound : Nat) : Bool := entry.event.level.verbosity ≤ bound
  entry.span.any (within <| f.boundIn ·) ||
    (f.deciding? entry.event).any fun d => within d.bound

def items (s : String) : List String :=
  (s.splitOn ",").filter (!·.isEmpty)

/-- The filter that a text asks for; where it asks for none, all events up to a level. -/
def ofText (fallback : Level) (s : String) : Filter :=
  match (items s).filterMap fun item => (Directive.ofText item).toOption with
  | [] => .ofLevel fallback
  | ds => ⟨ds⟩

def flaws (s : String) : List (String × DirectiveFlaw) :=
  (items s).filterMap fun item =>
    match Directive.ofText item with
    | .ok _ => none
    | .error flaw => some (item, flaw)

def complaint (item : String) (flaw : DirectiveFlaw) : String :=
  "ignoring " ++ "`" ++ item ++ "`" ++ ": " ++ flaw.message

def complaints (s : String) : List String :=
  (flaws s).map fun (item, flaw) => complaint item flaw

def isTorn (s : String) : Bool :=
  (flaws s).any fun (_, flaw) => flaw = .torn

def torn (s : String) : String × List String :=
  let (before, rest) := (flaws s).span fun (_, flaw) => flaw ≠ .torn
  ((rest.head?.map Prod.fst).getD "", before.map fun (item, flaw) => complaint item flaw)

end Filter
end QualityGate.Log
