import QualityGate.Proofs.Cli.Execution
import QualityGate.Proofs.Cli.Response

namespace QualityGate

open Log Recording

variable {σ : Type}

abbrev Launch (σ : Type) := Command × World σ

namespace Host

variable (host : Host (Fragile (Stalling (WorldM σ))))

def NeverEnds (launch : Launch σ) : Prop :=
  ((host.perform launch.1).run.run launch.2).1 = none

/-- The same host, which notes all commands that it starts. -/
def watched : Host (Fragile (Stalling (Recording (Launch σ) (WorldM σ)))) where
  perform c := ExceptT.mk <| OptionT.mk fun launches w =>
    (((host.perform c w).1, launches ++ [(c, w)]), (host.perform c w).2)

def Waits (launches : List (Launch σ)) : Prop :=
  ∃ launch ∈ launches.getLast?, host.NeverEnds launch

theorem not_waits_nil : ¬ host.Waits [] := by
  rintro ⟨launch, hl, -⟩
  cases hl

theorem waits_append {l l' : List (Launch σ)} (h : ¬ host.Waits l) :
    host.Waits (l ++ l') ↔ host.Waits l' := by
  cases l' with
  | nil =>
    rw [List.append_nil]
    exact iff_of_false h host.not_waits_nil
  | cons launch l' => simp [Waits, List.getLast?_append]

end Host

/-- What is noted of `x` are the commands that it starts, and `x` never ends exactly if the last of
them never ends. Apart from the notes it does what `y` does. -/
def Watches (host : Host (Fragile (Stalling (WorldM σ)))) {α : Type}
    (x : Stalling (Recording (Launch σ) (WorldM σ)) α) (y : Stalling (WorldM σ) α) : Prop :=
  ∀ l w, ∃ l', x l w = (((y w).1, l ++ l'), (y w).2) ∧ ((y w).1 = none ↔ host.Waits l')

namespace Watches

variable {host : Host (Fragile (Stalling (WorldM σ)))} {α β : Type}

theorem of_some {x : Recording (Launch σ) (WorldM σ) α} {y : WorldM σ α}
    (h : ∀ l w, x l w = (((y w).1, l), (y w).2)) :
    Watches host (OptionT.lift x) (OptionT.lift y) := by
  intro l w
  refine ⟨[], ?_, iff_of_false nofun host.not_waits_nil⟩
  rw [List.append_nil]
  change ((some (x l w).1.1, (x l w).1.2), (x l w).2) = ((some (y w).1, l), (y w).2)
  rw [h]

theorem bind {x : Stalling (Recording (Launch σ) (WorldM σ)) α} {y : Stalling (WorldM σ) α}
    {f : α → Stalling (Recording (Launch σ) (WorldM σ)) β} {g : α → Stalling (WorldM σ) β}
    (h : Watches host x y) (hf : ∀ a, Watches host (f a) (g a)) :
    Watches host (x >>= f) (y >>= g) := by
  intro l w
  obtain ⟨l', hx, hw⟩ := h l w
  have hl : (x >>= f) l w = (x l w).1.1.elim OptionT.fail f (x l w).1.2 (x l w).2 := by
    change (x >>= f).run l w = _
    rw [OptionT.run_bind, Option.elimM, Recording.bind_eq]
    rfl
  have hr : (y >>= g) w = (y w).1.elim OptionT.fail g (y w).2 := by
    change (y >>= g).run w = _
    rw [OptionT.run_bind, Option.elimM, WorldM.bind_eq]
    rfl
  rw [hl, hr, hx]
  cases hy : (y w).1 with
  | none => exact ⟨l', rfl, iff_of_true rfl (hw.mp hy)⟩
  | some a =>
    have hn : ¬ host.Waits l' := fun hl' => by cases hy.symm.trans (hw.mpr hl')
    obtain ⟨l'', hfa, hw'⟩ := hf a (l ++ l') (y w).2
    refine ⟨l' ++ l'', ?_, hw'.trans (host.waits_append hn).symm⟩
    rw [← List.append_assoc]
    exact hfa

theorem within {x : Stalling (Recording (Launch σ) (WorldM σ)) α} {y : Stalling (WorldM σ) α}
    (span : Span) (h : Watches host x y) :
    Watches host (Journal.within span x) (Journal.within span y) := by
  intro l w
  obtain ⟨l', hx, hw⟩ := h l { w with span := some span }
  refine ⟨l', ?_, hw⟩
  have hl : Journal.within span x l w = ((x l { w with span := some span }).1,
    { (x l { w with span := some span }).2 with span := w.span }) := rfl
  rw [hl, hx]
  rfl

end Watches

/-- Computations that are watched, together with what they do unwatched. -/
def Watched (host : Host (Fragile (Stalling (WorldM σ)))) (α : Type) : Type :=
  {p : Stalling (Recording (Launch σ) (WorldM σ)) α × Stalling (WorldM σ) α //
    Watches host p.1 p.2}

namespace Watched

variable {host : Host (Fragile (Stalling (WorldM σ)))}

instance : Monad (Watched host) where
  pure a := ⟨(pure a, pure a), .of_some (x := pure a) (y := pure a) fun _ _ => rfl⟩
  bind x f := ⟨(x.1.1 >>= fun a => (f a).1.1, x.1.2 >>= fun a => (f a).1.2),
    x.2.bind fun a => (f a).2⟩

instance : LawfulMonad (Watched host) :=
  LawfulMonad.mk' (Watched host)
    (fun x => Subtype.ext (Prod.ext (id_map x.1.1) (id_map x.1.2)))
    (fun a f => Subtype.ext (Prod.ext (pure_bind a fun a => (f a).1.1)
      (pure_bind a fun a => (f a).1.2)))
    (fun x f g => Subtype.ext (Prod.ext (bind_assoc x.1.1 _ _) (bind_assoc x.1.2 _ _)))

instance : Journal (Watched host) where
  record e := ⟨(Journal.record e, Journal.record e),
    .of_some (x := Journal.record e) (y := Journal.record e) fun _ _ => rfl⟩
  within span x := ⟨(Journal.within span x.1.1, Journal.within span x.1.2), x.2.within span⟩

instance : MonadLift (WorldM σ) (Watched host) where
  monadLift x := ⟨(liftM x, liftM x), .of_some (x := StateT.lift x) (y := x) fun _ _ => rfl⟩

@[reducible]
def noting (host : Host (Fragile (Stalling (WorldM σ)))) :
    MonadLiftT (Watched host) (Stalling (Recording (Launch σ) (WorldM σ))) where
  monadLift x := x.1.1

@[reducible]
def plain (host : Host (Fragile (Stalling (WorldM σ)))) :
    MonadLiftT (Watched host) (Stalling (WorldM σ)) where
  monadLift x := x.1.2

variable (host)

theorem liftsJournal_noting :
    letI := noting host
    LiftsJournal (Watched host) (Stalling (Recording (Launch σ) (WorldM σ))) := by
  let := noting host
  have : LawfulMonadLiftT (Watched host) (Stalling (Recording (Launch σ) (WorldM σ))) :=
    ⟨fun _ => rfl, fun _ _ => rfl⟩
  exact ⟨fun _ => rfl, fun _ _ => rfl⟩

theorem liftsJournal_plain :
    letI := plain host
    LiftsJournal (Watched host) (Stalling (WorldM σ)) := by
  let := plain host
  have : LawfulMonadLiftT (Watched host) (Stalling (WorldM σ)) :=
    ⟨fun _ => rfl, fun _ _ => rfl⟩
  exact ⟨fun _ => rfl, fun _ _ => rfl⟩

end Watched

theorem Host.watches_perform (host : Host (Fragile (Stalling (WorldM σ)))) (c : Command) :
    Watches host (host.watched.perform c).run (host.perform c).run := by
  intro l w
  refine ⟨[(c, w)], rfl, fun h => ⟨(c, w), rfl, h⟩, ?_⟩
  rintro ⟨launch, hl, h⟩
  obtain rfl := Option.some.inj hl
  exact h

def Host.minded (host : Host (Fragile (Stalling (WorldM σ)))) : Host (Fragile (Watched host)) where
  perform c := ExceptT.mk ⟨(_, _), host.watches_perform c⟩

namespace Cli

section Rebase

variable {m n : Type → Type} [Monad m] [LawfulMonad m] [Journal m] [Monad n] [LawfulMonad n]
  [Journal n] [MonadLiftT m n] [LiftsJournal m n]
  {f : Facilities (Fragile m)} {g : Facilities (Fragile n)}

theorem HookCall.execute_rebase (call : HookCall) (hs : g.settings = f.settings)
    (hl : ∀ l, (g.startLogger l).run = liftM (f.startLogger l).run) (hh : g.host = f.host.rebase)
    (config : Option String) (timeoutMs : Option UInt64) :
    (call.execute g config timeoutMs).run = liftM (call.execute f config timeoutMs).run := by
  unfold execute
  rw [hs, hh]
  cases f.settings config with
  | error e => exact (liftM_pure (m := m) (n := n) _).symm
  | ok settings =>
    rw [ExceptT.run_bind, ExceptT.run_bind, liftM_bind, hl]
    refine bind_congr fun r => ?_
    cases r with
    | error b => exact (liftM_pure (m := m) (n := n) _).symm
    | ok said =>
      let settings := withTimeout settings timeoutMs
      change (ExceptT.lift (call.respond f.host.rebase settings) >>= fun x =>
          pure (x.1, said ++ x.2)).run =
        liftM (ExceptT.lift (call.respond f.host settings) >>= fun x =>
          pure (x.1, said ++ x.2)).run
      rw [bind_pure_comp, bind_pure_comp, ExceptT.run_map, ExceptT.run_map, ExceptT.run_lift,
        ExceptT.run_lift, respond_rebase, liftM_map, liftM_map]

theorem Request.finish_rebase {r : Request} {timeoutMs : Option UInt64}
    (ht : r.task = .hook timeoutMs) (call : HookCall) (colours : Bool)
    (hs : g.settings = f.settings)
    (hl : ∀ l, (g.startLogger l).run = liftM (f.startLogger l).run) (hh : g.host = f.host.rebase) :
    r.finish g call colours = liftM (r.finish f call colours) := by
  rw [finish, finish, r.execute_hook ht, r.execute_hook ht, call.execute_rebase hs hl hh,
    liftM_bind]
  refine bind_congr fun x => ?_
  cases x <;> exact (liftM_pure _).symm

end Rebase

/-- A request of an agent never ends exactly if the command that it has started last never ends. -/
theorem Request.watches_finish {r : Request} {timeoutMs : Option UInt64}
    (ht : r.task = .hook timeoutMs) (w : Workplace)
    (host : Host (Fragile (Stalling (WorldM Workplace)))) (call : HookCall) (colours : Bool) :
    Watches host (r.finish (.atWorkplace w host.watched) call colours)
      (r.finish (.atWorkplace w host) call colours) := by
  let z : Watched host (Nat × Output) := r.finish (.atWorkplace w host.minded) call colours
  have hn : r.finish (.atWorkplace w host.watched) call colours = z.1.1 := by
    let := Watched.noting host
    have := Watched.liftsJournal_noting host
    exact r.finish_rebase (f := .atWorkplace w host.minded) ht call colours rfl (fun _ => rfl) rfl
  have hp : r.finish (.atWorkplace w host) call colours = z.1.2 := by
    let := Watched.plain host
    have := Watched.liftsJournal_plain host
    exact r.finish_rebase (f := .atWorkplace w host.minded) ht call colours rfl (fun _ => rfl) rfl
  rw [hn, hp]
  exact z.2

end Cli

end QualityGate
