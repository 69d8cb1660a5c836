import Mathlib.Dynamics.FixedPoints.Basic
import QualityGate.Gate.Ensemble

namespace QualityGate

open Log

namespace Promptbook

def answer (b : Promptbook) (file : String) : Except Breakdown (Except GateError CheckReport) :=
  match b.script with
  | [] => .ok (.ok (b.last.getD .clean))
  | .report report :: _ => .ok (.ok report)
  | .fail reason :: _ => .ok (.error (.checkerFailed file reason))
  | .breakDown b :: _ => .error b

def advance (b : Promptbook) : Promptbook :=
  match b.script with
  | [] => b
  | .report report :: script => ⟨script, some report⟩
  | .fail _ :: script | .breakDown _ :: script => ⟨script, b.last⟩

end Promptbook

namespace Rehearsal

theorem nextCheck_eq (r : Rehearsal) (file : String) :
    r.nextCheck file =
      (r.book.answer file, ⟨r.book.advance.script, r.book.advance.last, r.calls ++ [.check]⟩) := by
  obtain ⟨script, last, calls⟩ := r
  cases script with
  | nil => rfl
  | cons cue script => cases cue <;> rfl

theorem advance_iterate_ofReports (reports : List CheckReport) (n : Nat) :
    Promptbook.advance^[n] (ofReports reports).book =
      ⟨(reports.drop n).map .report, (reports.take n).getLast?⟩ := by
  induction n with
  | zero => rfl
  | succ n ih =>
    rw [Function.iterate_succ_apply', ih]
    by_cases h : n < reports.length
    · rw [List.drop_eq_getElem_cons h, List.take_add_one, List.getElem?_eq_getElem h,
        Option.toList_some, List.getLast?_concat]
      rfl
    · have hn : reports.length ≤ n := Nat.le_of_not_lt h
      rw [List.drop_of_length_le hn, List.drop_of_length_le (Nat.le_succ_of_le hn),
        List.take_of_length_le hn, List.take_of_length_le (Nat.le_succ_of_le hn)]
      rfl

theorem answer_ofReports (reports : List CheckReport) (n : Nat) (file : String) :
    (Promptbook.advance^[n] (ofReports reports).book).answer file =
      .ok (.ok (reports[min n (reports.length - 1)]?.getD .clean)) := by
  rw [advance_iterate_ofReports]
  by_cases h : n < reports.length
  · have hm : min n (reports.length - 1) = n := by omega
    rw [hm, List.drop_eq_getElem_cons h, List.getElem?_eq_getElem h]
    rfl
  · have hn : reports.length ≤ n := Nat.le_of_not_lt h
    have hm : min n (reports.length - 1) = reports.length - 1 := by omega
    rw [hm, List.drop_of_length_le hn, List.take_of_length_le hn, List.getLast?_eq_getElem?]
    rfl

theorem answer_ofFailure (reason : String) (n : Nat) (file : String) :
    (Promptbook.advance^[n] (ofFailure reason).book).answer file =
      .ok (if n = 0 then .error (.checkerFailed file reason) else .ok .clean) := by
  cases n with
  | zero => rfl
  | succ n =>
    have ha : (ofFailure reason).book.advance = ⟨[], none⟩ := rfl
    have hf : Function.IsFixedPt Promptbook.advance ⟨[], none⟩ := rfl
    rw [Function.iterate_succ_apply, ha, hf.iterate n, if_neg n.succ_ne_zero]
    rfl

end Rehearsal

namespace Act

def book? : Act → Option Nat
  | .check role _ => some role.book
  | .openLog | .engage _ | .fix _ _ _ => none

def checksOf (book : Nat) (acts : List Act) : Nat :=
  acts.countP fun act => act.book? = some book

/-- The call that an act makes of a collaborator with the log at a place. -/
def callIn? (log : Nat) : Act → Option Call
  | .check role _ => if role.log = log then some .check else none
  | .fix role _ _ => if role.log = log then some .fix else none
  | .openLog | .engage _ => none

end Act

namespace Ensemble

variable {e : Ensemble} {b : Promptbook} {calls : List Call} {place : Nat}

@[simp]
theorem play_nil (e : Ensemble) : e.play [] = e := rfl

@[simp]
theorem play_cons (e : Ensemble) (act : Act) (acts : List Act) :
    e.play (act :: acts) = (e.perform act).play acts := rfl

theorem check_eq (e : Ensemble) (role : CheckRole) (file : String) :
    e.check role file = ((e.rehearsal role).book.answer file,
      ⟨e.books.set role.book (e.rehearsal role).book.advance,
        e.logs.set role.log (e.calls role.log ++ [.check])⟩) := by
  change (((e.rehearsal role).nextCheck file).1,
    Ensemble.mk (e.books.set role.book ((e.rehearsal role).nextCheck file).2.book)
      (e.logs.set role.log ((e.rehearsal role).nextCheck file).2.calls)) = _
  rw [Rehearsal.nextCheck_eq]
  rfl

theorem fix_eq (e : Ensemble) (role : FixRole) (file : String) (report : CheckReport) :
    e.fix role file report = (.ok (role.script.answer file),
      { e with logs := e.logs.set role.log (e.calls role.log ++ [.fix]) }) := rfl

theorem book_rehearsal {role : CheckRole} (h : e.books[role.book]? = some b) :
    (e.rehearsal role).book = b := by
  simp [rehearsal, Rehearsal.book, List.getD_eq_getElem?_getD, h]

theorem calls_of_getElem? (h : e.logs[place]? = some calls) : e.calls place = calls := by
  rw [Ensemble.calls, List.getD_eq_getElem?_getD, h, Option.getD_some]

theorem books_perform (act : Act) (h : e.books[place]? = some b) :
    (e.perform act).books[place]? =
      some (Promptbook.advance^[if act.book? = some place then 1 else 0] b) := by
  have hi : place < e.books.length := (List.getElem?_eq_some_iff.mp h).1
  cases act with
  | openLog | fix role file report => exact h
  | engage r => simpa [perform, engage, Act.book?, List.getElem?_append_left hi] using h
  | check role file =>
    rw [perform, check_eq]
    by_cases hr : role.book = place
    · subst hr
      simp [Act.book?, hi, book_rehearsal h]
    · simpa [Act.book?, hr] using h

theorem books_play (acts : List Act) (h : e.books[place]? = some b) :
    (e.play acts).books[place]? = some (Promptbook.advance^[Act.checksOf place acts] b) := by
  induction acts generalizing e b with
  | nil => exact h
  | cons act acts ih =>
    have hb := ih (books_perform act h)
    rw [← Function.iterate_add_apply] at hb
    simpa [Act.checksOf, List.countP_cons] using hb

theorem check_play {role : CheckRole} (acts : List Act) (h : e.books[role.book]? = some b)
    (file : String) :
    ((e.play acts).check role file).1 =
      (Promptbook.advance^[Act.checksOf role.book acts] b).answer file := by
  rw [check_eq, book_rehearsal (books_play acts h)]

theorem logs_perform (act : Act) (h : e.logs[place]? = some calls) :
    (e.perform act).logs[place]? = some (calls ++ (act.callIn? place).toList) := by
  have hl : place < e.logs.length := (List.getElem?_eq_some_iff.mp h).1
  cases act with
  | openLog | engage r =>
    simpa [perform, openLog, engage, Act.callIn?, List.getElem?_append_left hl] using h
  | check role file =>
    rw [perform, check_eq]
    by_cases hr : role.log = place
    · subst hr
      simp [Act.callIn?, hl, calls_of_getElem? h]
    · simpa [Act.callIn?, hr] using h
  | fix role file report =>
    rw [perform, fix_eq]
    by_cases hr : role.log = place
    · subst hr
      simp [Act.callIn?, hl, calls_of_getElem? h]
    · simpa [Act.callIn?, hr] using h

theorem logs_play (acts : List Act) (h : e.logs[place]? = some calls) :
    (e.play acts).logs[place]? = some (calls ++ acts.filterMap (Act.callIn? place)) := by
  induction acts generalizing e calls with
  | nil => simpa using h
  | cons act acts ih =>
    have hl := ih (logs_perform act h)
    cases ha : act.callIn? place <;> simpa [ha] using hl

/-- The log at a place has one entry for each call of a collaborator that shares it, in the order of
the calls, so that they are counted by it. -/
structure Logged (acts : List Act) (log : Nat) (e : Ensemble) : Prop where
  calls_eq : e.calls log = acts.filterMap (Act.callIn? log)
  count_eq (c : Call) : e.count log c = acts.countP fun act => act.callIn? log = some c

theorem logged_play (acts : List Act) (h : e.logs[place]? = some []) :
    Logged acts place (e.play acts) := by
  have hc : (e.play acts).calls place = acts.filterMap (Act.callIn? place) :=
    calls_of_getElem? (logs_play acts h)
  refine ⟨hc, fun c => ?_⟩
  rw [count, hc, List.count_filterMap]
  exact List.countP_congr fun act _ => by simp

theorem check_engage (e : Ensemble) (r : Rehearsal) (acts : List Act) (log : Nat) (file : String) :
    (((e.engage r).2.play acts).check ((e.engage r).1.keeping log) file).1 =
      (Promptbook.advance^[Act.checksOf (e.engage r).1.book acts] r.book).answer file :=
  check_play acts List.getElem?_concat_length file

theorem logged_engage (e : Ensemble) {r : Rehearsal} (acts : List Act) (h : r.calls = []) :
    Logged acts (e.engage r).1.log ((e.engage r).2.play acts) :=
  logged_play acts (h ▸ List.getElem?_concat_length)

/-- Whatever happens after a checker has come in, it gives its reports one after another and the
last one again and again, or the clean report if it has none; one that fails does so at its first
check, and is clean from then on. A log, opened by itself or for a checker, has one entry for each
call of those that share it. -/
theorem play_answers_and_logs (e : Ensemble) (acts : List Act) :
    (∀ reports : List CheckReport,
      let (role, e') := e.engage (.ofReports reports)
      let n := Act.checksOf role.book acts
      (∀ log file, ((e'.play acts).check (role.keeping log) file).1 =
        .ok (.ok (reports[min n (reports.length - 1)]?.getD .clean))) ∧
      Logged acts role.log (e'.play acts)) ∧
    (∀ reason : String,
      let (role, e') := e.engage (.ofFailure reason)
      let n := Act.checksOf role.book acts
      (∀ log file, ((e'.play acts).check (role.keeping log) file).1 =
        .ok (if n = 0 then .error (.checkerFailed file reason) else .ok .clean)) ∧
      Logged acts role.log (e'.play acts)) ∧
    let (log, e') := e.openLog
    Logged acts log (e'.play acts) := by
  refine ⟨fun reports => ⟨fun log file => ?_, e.logged_engage acts rfl⟩,
    fun reason => ⟨fun log file => ?_, e.logged_engage acts rfl⟩, ?_⟩
  · exact (e.check_engage _ acts log file).trans (Rehearsal.answer_ofReports reports _ file)
  · exact (e.check_engage _ acts log file).trans (Rehearsal.answer_ofFailure reason _ file)
  · exact logged_play acts List.getElem?_concat_length

example :
    let (log, e) := (Ensemble.mk [] []).openLog
    let (role, e) := e.engage (.ofReports [.unexplained, .clean])
    let e := e.play [.check (role.keeping log) "a.ts", .fix ⟨.success true, log⟩ "a.ts" .clean,
      .check (role.keeping log) "b.ts", .check role "a.ts"]
    e.calls log = [.check, .fix, .check] ∧ e.calls role.log = [.check] := by
  decide

end Ensemble
end QualityGate
