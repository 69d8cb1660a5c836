import QualityGate.Proofs.Wire.Meaning
import QualityGate.Wire.Text

namespace QualityGate.Wire

open Json (Document Spells SpellsItems SpellsMembers Blank Lead Opens Stops bodyText? skipSpace
  toOption_ok toOption_error toOption_map toOption_bind)

variable {α σ : Type}

@[simp]
theorem toOption_ofScan (x : Except (Json.Flaw Json.Defect) α) :
    (ofScan x).toOption = x.toOption := by
  cases x <;> rfl

theorem toOption_bind_none {ε β : Type} (x : Except ε β) {f : β → Except ε α}
    (h : ∀ a, (f a).toOption = none) : (x >>= f).toOption = none := by
  cases x with
  | error e => rfl
  | ok a => exact h a

@[simp]
theorem toOption_otherType (expected : String) (cs : List Char) :
    (otherType expected cs : Reading α).toOption = none := by
  unfold otherType
  split
  · rfl
  · exact toOption_bind_none _ fun _ => rfl
  · exact toOption_bind_none _ fun _ => rfl
  · exact toOption_bind_none _ fun _ => rfl
  · refine toOption_bind_none _ fun r => ?_
    cases r.1 <;> rfl
  · exact toOption_bind_none _ fun _ => rfl
  · rfl
  · rfl
  · split
    · refine toOption_bind_none _ fun r => ?_
      cases r.1 <;> rfl
    · rfl

theorem skipSpace_spells {d : Document} {b cs rest : List Char} (hb : Blank b)
    (h : Spells d cs rest) : skipSpace (b ++ cs) = cs := by
  obtain ⟨c, cs, rfl, ho⟩ := h.exists_cons
  exact Json.skipSpace_append_cons hb ho.space cs

/-- What a reader gives is what a document means, wherever it is spelled. -/
def Agrees (read : List Char → Reading (α × List Char)) (value? : Document → Option α) : Prop :=
  ∀ {d : Document} {b cs rest : List Char}, Blank b → Spells d cs rest → Stops rest →
    (read (b ++ cs)).toOption = (value? d).map (·, rest)

theorem agrees_text : Agrees readText text? := by
  intro d b cs rest hb h hr
  rw [readText, skipSpace_spells hb h]
  cases h with
  | string rest h => exact (toOption_ofScan _).trans (Json.stringText_body h rest)
  | number rest h =>
    obtain ⟨c, cs, rfl, hc⟩ := h.exists_cons
    rw [List.cons_append]
    split
    · next he =>
      cases he
      rcases hc with hc | hc <;> cases hc
    · exact toOption_otherType _ _
  | _ => exact toOption_otherType _ _

theorem agrees_flag : Agrees readFlag flag? := by
  intro d b cs rest hb h hr
  rw [readFlag, skipSpace_spells hb h]
  cases h with
  | true | false => rfl
  | number rest h =>
    obtain ⟨c, cs, rfl, hc⟩ := h.exists_cons
    rw [List.cons_append]
    split
    · next he =>
      cases he
      rcases hc with hc | hc <;> cases hc
    · next he =>
      cases he
      rcases hc with hc | hc <;> cases hc
    · exact toOption_otherType _ _
  | _ => exact toOption_otherType _ _

section Integers

variable {low high : Int} {expected : String} {cs cs' : List Char}

theorem toOption_checkInteger (r : Json.Numeral × List Char) : (match r.1 with
    | .integer z =>
      if low ≤ z ∧ z ≤ high then .ok (z, r.2)
      else mismatchHere (.invalidValue (.integer z) expected) r.2
    | .real x => mismatchHere (.invalidType (.real x) expected) r.2 :
      Reading (Int × List Char)).toOption = (integerIn? low high r.1).map (·, r.2) := by
  obtain ⟨z | x, rest⟩ := r
  · dsimp only [integerIn?]
    split <;> rfl
  · rfl

theorem readInteger_minus (h : skipSpace cs = '-' :: cs') :
    (readInteger low high expected cs).toOption =
      (Json.number true cs').toOption.bind fun r => (integerIn? low high r.1).map (·, r.2) := by
  rw [readInteger, h, ← toOption_ofScan]
  refine (toOption_bind _ _).trans (congrArg _ (funext fun r => ?_))
  exact toOption_checkInteger r

theorem readInteger_digit {c : Char} (h : skipSpace cs = c :: cs') (hc : c.isDigit = true) :
    (readInteger low high expected cs).toOption =
      (Json.number false (c :: cs')).toOption.bind fun r =>
        (integerIn? low high r.1).map (·, r.2) := by
  rw [readInteger, h, ← toOption_ofScan]
  split
  · next he =>
    cases he
    cases hc
  · have hd : Json.startsWithDigit (c :: cs') = true := hc
    rw [if_pos hd]
    refine (toOption_bind _ _).trans (congrArg _ (funext fun r => ?_))
    exact toOption_checkInteger r

theorem readInteger_other {c : Char} (h : skipSpace cs = c :: cs') (hm : c ≠ '-')
    (hc : c.isDigit = false) : (readInteger low high expected cs).toOption = none := by
  rw [readInteger, h]
  split
  · next he => exact absurd (List.cons.inj he).1 hm
  · rw [if_neg (by simp [Json.startsWithDigit, hc])]
    exact toOption_otherType _ _

end Integers

theorem agrees_integer (low high : Int) (expected : String) :
    Agrees (readInteger low high expected) (integer? low high) := by
  intro d b cs rest hb h hr
  have hs := skipSpace_spells hb h
  cases h with
  | number rest h =>
    rw [integer?]
    cases h with
    | unsigned h =>
      have hv := Json.number_append h hr false
      rw [Json.numeralValue?_unsigned h]
      obtain ⟨c, cs, rfl, hc⟩ := h.exists_cons
      rw [List.cons_append] at hs hv ⊢
      rw [readInteger_digit hs hc, hv, Option.bind_map, Option.map_bind]
      rfl
    | negative h =>
      rw [List.cons_append] at hs ⊢
      rw [readInteger_minus hs, Json.number_append h hr true, Option.bind_map, Option.map_bind]
      rfl
  | _ => exact readInteger_other hs (by decide) (by decide)

theorem agrees_choice (choices : List α) (name : α → String) :
    Agrees (readChoice choices name)
      fun d => (text? d).bind fun s => choices.find? (name · == s) := by
  intro d b cs rest hb h hr
  rw [readChoice]
  refine (toOption_bind _ _).trans ?_
  rw [agrees_text hb h hr, Option.bind_map, Option.map_bind]
  refine congrArg _ (funext fun s => ?_)
  dsimp only [Function.comp_apply]
  cases choices.find? (name · == s) <;> rfl

section Lists

variable {first : Bool} {b cs lead rest : List Char}

theorem nextItem_close (h : Blank b) : nextItem first (b ++ ']' :: rest) = .ok none := by
  have hs : skipSpace (b ++ ']' :: rest) = ']' :: rest :=
    Json.skipSpace_append_cons h (by decide) rest
  rw [nextItem, hs]
  rfl

theorem nextItem_lead {c : Char} (h : Lead first lead) (ho : Opens c) :
    nextItem first (lead ++ c :: cs) = .ok (some (c :: cs)) := by
  cases h with
  | first h =>
    rw [nextItem, Json.skipSpace_append_cons h ho.space]
    split
    · next he => cases he
    · next he => exact absurd (List.cons.inj he).1 ho.list
    · next he =>
      cases he
      rfl
  | @next b b' h h' =>
    have hs : skipSpace (b ++ ',' :: (b' ++ c :: cs)) = ',' :: (b' ++ c :: cs) :=
      Json.skipSpace_append_cons h (by decide) _
    rw [nextItem, List.append_assoc, List.cons_append, hs]
    split
    · next he => cases he
    · next he => cases he
    · next he =>
      cases he
      rw [if_neg Bool.false_ne_true, if_pos rfl, Json.skipSpace_append_cons h' ho.space]
      split
      · next he => cases he
      · next he => exact absurd (List.cons.inj he).1 ho.list
      · rfl

theorem endList_close (h : Blank b) : endList (b ++ ']' :: rest) = .ok rest := by
  have hs : skipSpace (b ++ ']' :: rest) = ']' :: rest :=
    Json.skipSpace_append_cons h (by decide) rest
  rw [endList, hs]
  rfl

theorem endList_item {d : Document} {mid : List Char} (hl : Lead first lead) (h : Spells d cs mid) :
    (endList (lead ++ cs)).toOption = none := by
  obtain ⟨c, cs, rfl, ho⟩ := h.exists_cons
  cases hl with
  | first h =>
    rw [endList, Json.skipSpace_append_cons h ho.space]
    split
    · rfl
    · next he => exact absurd (List.cons.inj he).1 ho.list
    · next he => exact absurd (List.cons.inj he).1 ho.comma
    · rfl
  | @next b b' h h' =>
    have hs : skipSpace (b ++ ',' :: (b' ++ c :: cs)) = ',' :: (b' ++ c :: cs) :=
      Json.skipSpace_append_cons h (by decide) _
    rw [endList, List.append_assoc, List.cons_append, hs]
    split
    · rfl
    · next he => cases he
    · split <;> rfl
    · rfl

theorem toOption_readItems_some (read : List Char → Reading (α × List Char)) {cs' : List Char}
    {before : List α} (h : nextItem before.isEmpty cs = .ok (some cs')) (fuel : Nat) :
    (readItems read (fuel + 1) before cs).toOption =
      (read cs').toOption.bind fun r => (readItems read fuel (r.1 :: before) r.2).toOption := by
  rw [readItems, h]
  dsimp only
  cases read cs' <;> rfl

theorem readItems_spells {read : List Char → Reading (α × List Char)}
    {value? : Document → Option α} (ha : Agrees read value?) {ds : List Document} {fuel : Nat}
    {before : List α} (h : SpellsItems before.isEmpty ds cs rest) (hf : ds.length < fuel) :
    (readItems read fuel before cs).toOption =
      (ds.mapM value?).map fun as => (before.reverse ++ as, rest) := by
  induction ds generalizing before cs fuel with
  | nil =>
    obtain ⟨fuel, rfl⟩ : ∃ n, fuel = n + 1 := ⟨fuel - 1, by omega⟩
    cases h with
    | close rest hb =>
      have hs : skipSpace (_ ++ ']' :: rest) = ']' :: rest :=
        Json.skipSpace_append_cons hb (by decide) rest
      rw [readItems, nextItem_close hb]
      simp [hs]
  | cons d ds ih =>
    rw [List.length_cons] at hf
    obtain ⟨fuel, rfl⟩ : ∃ n, fuel = n + 1 := ⟨fuel - 1, by omega⟩
    cases h with
    | @cons _ lead cs mid _ _ _ hl hd h =>
      have hv := ha Json.blank_nil hd h.stops
      obtain ⟨c, cs, rfl, ho⟩ := hd.exists_cons
      rw [List.nil_append] at hv
      rw [toOption_readItems_some read (nextItem_lead hl ho), hv, List.mapM_cons, Option.bind_map]
      cases value? d with
      | none => rfl
      | some a =>
        have hi : (readItems read fuel (a :: before) mid).toOption =
            (ds.mapM value?).map fun as => ((a :: before).reverse ++ as, rest) :=
          ih h (Nat.lt_of_succ_lt_succ hf)
        refine hi.trans ?_
        cases ds.mapM value? with
        | none => rfl
        | some as => simp

end Lists

section Objects

variable {first : Bool} {b b' cs lead rest : List Char}

theorem nextName_close (h : Blank b) : nextName first (b ++ '\x7d' :: rest) = .ok (none, rest) := by
  have hs : skipSpace (b ++ '\x7d' :: rest) = '\x7d' :: rest :=
    Json.skipSpace_append_cons h (by decide) rest
  rw [nextName, hs]
  rfl

theorem toOption_nextName {name : List Char} (hl : Lead first lead) (hn : Json.IsBody name) :
    (nextName first (lead ++ '"' :: (name ++ '"' :: cs))).toOption =
      (bodyText? name).map fun s => (some s, cs) := by
  have hv : (ofScan (Json.stringText (name ++ '"' :: cs)) >>= fun r =>
      (.ok (some r.1, r.2) : Reading (Option String × List Char))).toOption =
      (bodyText? name).map fun s => (some s, cs) := by
    rw [toOption_bind, toOption_ofScan, Json.stringText_body hn, Option.bind_map]
    cases bodyText? name <;> rfl
  cases hl with
  | first h =>
    rw [← hv, nextName, Json.skipSpace_append_cons h (by decide)]
    rfl
  | @next b b' h h' =>
    have hs : skipSpace (b ++ ',' :: (b' ++ '"' :: (name ++ '"' :: cs))) =
        ',' :: (b' ++ '"' :: (name ++ '"' :: cs)) := Json.skipSpace_append_cons h (by decide) _
    have hs' : skipSpace (b' ++ '"' :: (name ++ '"' :: cs)) = '"' :: (name ++ '"' :: cs) :=
      Json.skipSpace_append_cons h' (by decide) _
    rw [← hv, nextName, List.append_assoc, List.cons_append, hs]
    split
    · next he => cases he
    · next he => cases he
    · next he =>
      cases he
      rw [if_neg Bool.false_ne_true, if_pos rfl, hs']
      rfl

theorem skipColon_blank (h : Blank b) : skipColon (b ++ ':' :: cs) = .ok cs := by
  have hs : skipSpace (b ++ ':' :: cs) = ':' :: cs := Json.skipSpace_append_cons h (by decide) cs
  rw [skipColon, hs]
  rfl

theorem toOption_readMembers_succ (read : String → σ → List Char → Reading (σ × List Char))
    (fuel : Nat) (values : σ) :
    (readMembers read (fuel + 1) first values cs).toOption =
      (nextName first cs).toOption.bind fun r =>
        match r.1 with
        | none => some (values, r.2)
        | some name => (read name values r.2).toOption.bind fun r =>
          (readMembers read fuel false r.1 r.2).toOption := by
  rw [readMembers]
  cases nextName first cs with
  | error flaw => rfl
  | ok r =>
    obtain ⟨name | name, cs⟩ := r
    · rfl
    · dsimp only [toOption_ok, Option.bind_some]
      cases read name values cs <;> rfl

/-- A member is read, from its colon on, as it goes to its field. -/
def AgreesMember (read : String → σ → List Char → Reading (σ × List Char))
    (give? : String → Document → σ → Option σ) : Prop :=
  ∀ (name : String) (values : σ) {d : Document} {b b' cs rest : List Char}, Blank b → Blank b' →
    Spells d cs rest → Stops rest →
    (read name values (b ++ ':' :: (b' ++ cs))).toOption = (give? name d values).map (·, rest)

theorem readMembers_spells {read : String → σ → List Char → Reading (σ × List Char)}
    {give? : String → Document → σ → Option σ} (ha : AgreesMember read give?)
    {ms : List (List Char × Document)} {fuel : Nat} {values : σ}
    (h : SpellsMembers first ms cs rest) (hf : ms.length < fuel) :
    (readMembers read fuel first values cs).toOption =
      (ms.foldlM (memberStep give?) values).map (·, rest) := by
  induction ms generalizing first values cs fuel with
  | nil =>
    obtain ⟨fuel, rfl⟩ : ∃ n, fuel = n + 1 := ⟨fuel - 1, by omega⟩
    cases h with
    | close rest hb =>
      rw [readMembers, nextName_close hb]
      rfl
  | cons m ms ih =>
    rw [List.length_cons] at hf
    obtain ⟨fuel, rfl⟩ : ∃ n, fuel = n + 1 := ⟨fuel - 1, by omega⟩
    cases h with
    | @cons _ _ name _ _ _ _ _ d _ hl hn hb hb' hd h =>
      rw [toOption_readMembers_succ, toOption_nextName hl hn, List.foldlM_cons, memberStep]
      cases bodyText? name with
      | none => rfl
      | some s =>
        dsimp only [Option.map_some, Option.bind_some]
        rw [ha s values hb hb' hd h.stops]
        cases give? s d values with
        | none => rfl
        | some values => exact ih h (Nat.lt_of_succ_lt_succ hf)

end Objects

theorem eq_null_of_spells {d : Document} {cs t rest : List Char} (h : Spells d cs rest)
    (hc : cs = 'n' :: t) : d = .null := by
  cases h with
  | null => rfl
  | number rest h =>
    obtain ⟨c, cs, rfl, hn⟩ := h.exists_cons
    cases hc
    rcases hn with hn | hn <;> cases hn
  | _ => cases hc

theorem Form.agrees_optional {form : Form α} (ha : Agrees form.read form.value?) :
    Agrees (optional form).read (optional form).value? := by
  intro d b cs rest hb h hr
  have hv := ha Json.blank_nil h hr
  rw [read, skipSpace_spells hb h]
  by_cases hd : d = .null
  · subst hd
    cases h
    rfl
  · rw [value?_optional form hd]
    split
    · exact absurd (eq_null_of_spells h rfl) hd
    · rw [List.nil_append] at hv
      rw [toOption_map, hv, Option.map_map, Option.map_map]
      rfl

theorem Form.agrees_list {form : Form α} (ha : Agrees form.read form.value?) :
    Agrees (list form).read (list form).value? := by
  intro d b cs rest hb h hr
  rw [read, skipSpace_spells hb h]
  cases h with
  | array h => exact readItems_spells ha h (Nat.lt_succ_of_lt h.length_lt)
  | number rest h =>
    obtain ⟨c, cs, rfl, hc⟩ := h.exists_cons
    rw [List.cons_append]
    split
    · next he =>
      cases he
      rcases hc with hc | hc <;> cases hc
    · exact toOption_otherType _ _
  | _ => exact toOption_otherType _ _

theorem toOption_duplicate (key : String) (cs : List Char) :
    (duplicate key cs : Reading α).toOption = none := by
  rw [duplicate.eq_def]
  split <;> rfl

theorem endList_spells {first : Bool} {ds : List Document} {cs rest : List Char}
    (h : SpellsItems first ds cs rest) :
    (endList cs).toOption = if ds.isEmpty then some rest else none := by
  cases h with
  | close rest hb => rw [endList_close hb]; rfl
  | cons hl hd h => exact endList_item hl hd

def closed {β : Type} (x : Option (β × List Char)) : Option (β × List Char) :=
  x.bind fun r => (endList r.2).toOption.map (r.1, ·)

theorem closed_map {β γ : Type} (f : β → γ) (x : Option (β × List Char)) :
    closed (x.map fun r => (f r.1, r.2)) = (closed x).map fun r => (f r.1, r.2) := by
  cases x with
  | none => rfl
  | some r =>
    rw [Option.map_some, closed, closed, Option.bind_some, Option.bind_some]
    cases endList r.2 <;> rfl

theorem Form.agrees_record {β : Type} {name : String} {fields : Fields β σ} {ofParts : β → α}
    {parts : α → β} {hp : ∀ a, ofParts (parts a) = a}
    (hm : AgreesMember (readMember fields) fields.give?)
    (hi : ∀ {expected ds cs rest}, SpellsItems (0 == 0) ds cs rest →
      closed (readPositions fields expected 0 cs).toOption = (fields.positions? ds).map (·, rest)) :
    Agrees (record name fields ofParts parts hp).read
      (record name fields ofParts parts hp).value? := by
  intro d b cs rest hb h hr
  rw [read, skipSpace_spells hb h]
  cases h with
  | @object ms cs rest h =>
    have hv : (readMembers (readMember fields) (cs.length + 1) true fields.none cs).toOption = _ :=
      readMembers_spells hm h (Nat.lt_succ_of_lt h.length_lt)
    rw [value?]
    cases hr : readMembers (readMember fields) (cs.length + 1) true fields.none cs with
    | error flaw =>
      rw [hr, toOption_error] at hv
      rw [Option.map_eq_none_iff.mp hv.symm]
      simp only [hr]
      rfl
    | ok r =>
      rw [hr, toOption_ok] at hv
      obtain ⟨values, hms, rfl⟩ := Option.map_eq_some_iff.mp hv.symm
      rw [hms, Option.bind_some]
      cases hc : fields.complete values <;> simp only [hr, hc] <;> rfl
  | @array ds cs rest h =>
    have hv := @hi (recordLength name fields.keys.length) _ _ _ h
    have hm := congrArg (Option.map fun r => (ofParts r.1, r.2)) hv
    rw [Option.map_map] at hm
    rw [value?, Option.map_map]
    refine Eq.trans ?_ hm
    cases hr : readPositions fields (recordLength name fields.keys.length) 0 cs with
    | error flaw =>
      simp only [hr]
      rfl
    | ok r =>
      simp only [hr, toOption_map, toOption_ok, closed, Option.bind_some, Option.map_map]
      rfl
  | number rest h =>
    obtain ⟨c, cs, rfl, hc⟩ := h.exists_cons
    rw [List.cons_append]
    split
    · next he =>
      cases he
      rcases hc with hc | hc <;> cases hc
    · next he =>
      cases he
      rcases hc with hc | hc <;> cases hc
    · exact toOption_otherType _ _
  | _ => exact toOption_otherType _ _

section Positions

variable {β : Type} {key : String} {form : Form α} {presence : Presence α} {fields : Fields β σ}
  {expected : String} {index : Nat} {cs cs' : List Char}

theorem toOption_readPositions_none (h : nextItem (index == 0) cs = .ok none) :
    (Form.readPositions (.cons key form presence fields) expected index cs).toOption =
      presence.absent.bind fun a =>
        (Form.readPositions fields expected (index + 1) cs).toOption.map fun r =>
          ((a, r.1), r.2) := by
  rw [Form.readPositions, h]
  cases presence.absent with
  | none => rfl
  | some a =>
    refine (toOption_bind _ _).trans ?_
    rw [toOption_ok, Option.bind_some, Option.bind_some]
    cases Form.readPositions fields expected (index + 1) cs <;> rfl

theorem toOption_readPositions_some (h : nextItem (index == 0) cs = .ok (some cs')) :
    (Form.readPositions (.cons key form presence fields) expected index cs).toOption =
      (form.read cs').toOption.bind fun r =>
        (Form.readPositions fields expected (index + 1) r.2).toOption.map fun q =>
          ((r.1, q.1), q.2) := by
  rw [Form.readPositions, h]
  refine (toOption_bind _ _).trans ?_
  rw [toOption_ok, Option.bind_some]
  refine (toOption_bind _ _).trans (congrArg _ (funext fun r => ?_))
  obtain ⟨a, cs⟩ := r
  dsimp only
  cases Form.readPositions fields expected (index + 1) cs <;> rfl

end Positions

mutual

theorem Form.agrees : {α : Type} → (f : Form α) → Agrees f.read f.value?
  | _, .text => agrees_text
  | _, .flag => agrees_flag
  | _, .word64 => fun hb h hr => by
    rw [Form.read, toOption_map, agrees_integer _ _ _ hb h hr, Option.map_map, Form.value?,
      Option.map_map]
    rfl
  | _, .int32 => fun hb h hr => by
    rw [Form.read, toOption_map, agrees_integer _ _ _ hb h hr, Option.map_map, Form.value?,
      Option.map_map]
    rfl
  | _, .oneOf choices name _ => agrees_choice choices name
  | _, .optional form => Form.agrees_optional form.agrees
  | _, .list form => Form.agrees_list form.agrees
  | _, .record name fields ofParts _ _ =>
    Form.agrees_record fields.readMember_spells fields.readPositions_spells

theorem Fields.readMember_spells : {β σ : Type} → (fields : Fields β σ) →
    AgreesMember (Form.readMember fields) fields.give?
  | _, _, .nil => by
    intro name values d b b' cs rest hb hb' h hr
    rw [Form.readMember, skipColon_blank hb, Fields.give?]
    simp only [bind, Except.bind, Json.skipValue_spells hb' h hr]
    rfl
  | _, _, .cons key form _ rest => by
    rintro name ⟨value, values⟩ d b b' cs rest hb hb' h hr
    rw [Form.readMember, Fields.give?]
    split
    · split
      · exact toOption_duplicate _ _
      · have hv := form.agrees hb' h hr
        rw [skipColon_blank hb]
        refine (toOption_bind _ _).trans ?_
        rw [toOption_ok, Option.bind_some]
        refine (toOption_bind _ _).trans ?_
        rw [hv, Option.bind_map]
        cases form.value? d <;> rfl
    · rw [toOption_map, Fields.readMember_spells _ name values hb hb' h hr, Option.map_map,
        Option.map_map]
      rfl

theorem Fields.readPositions_spells : {β σ : Type} → (fields : Fields β σ) →
    {expected : String} → {index : Nat} → {ds : List Document} → {cs rest : List Char} →
    SpellsItems (index == 0) ds cs rest →
    closed (Form.readPositions fields expected index cs).toOption =
      (fields.positions? ds).map (·, rest)
  | _, _, .nil, _, _, ds, cs, rest, h => by
    rw [Form.readPositions, Fields.positions?, toOption_ok, closed, Option.bind_some,
      endList_spells h]
    split <;> rfl
  | _, _, .cons _ form presence fields, expected, index, [], cs, rest, h => by
    cases h with
    | close rest hb =>
      have hi : closed (Form.readPositions fields expected (index + 1) _).toOption = _ :=
        fields.readPositions_spells (.close rest hb)
      rw [toOption_readPositions_none (nextItem_close hb), Fields.positions?]
      cases presence.absent with
      | none => rfl
      | some a =>
        rw [Option.bind_some, Option.bind_some, closed_map (a, ·), hi, Option.map_map,
          Option.map_map]
        rfl
  | _, _, .cons _ form presence fields, expected, index, d :: ds, cs, rest, h => by
    cases h with
    | cons hl hd h =>
      have hv := form.agrees Json.blank_nil hd h.stops
      have hi : closed (Form.readPositions fields expected (index + 1) _).toOption = _ :=
        fields.readPositions_spells h
      obtain ⟨c, cs, rfl, ho⟩ := hd.exists_cons
      rw [List.nil_append] at hv
      rw [toOption_readPositions_some (nextItem_lead hl ho), Fields.positions?, hv]
      cases form.value? d with
      | none => rfl
      | some a =>
        rw [Option.map_some, Option.bind_some, Option.bind_some, closed_map (a, ·), hi,
          Option.map_map, Option.map_map]
        rfl

end

theorem Form.ofText_eq_ok_iff (f : Form α) {d : Document} {text : String} (h : d.Spelled text)
    (a : α) : f.ofText text = .ok a ↔ f.value? d = some a := by
  obtain ⟨b, cs, b', hb, hb', hd, ht⟩ := h
  have hv : (f.ofText text).toOption = f.value? d := by
    rw [ofText, Json.toOption_mapError, ht]
    refine (toOption_bind _ _).trans ?_
    rw [f.agrees hb hd (Json.stops_blank hb'), Option.bind_map]
    simp [Function.comp_def, Json.skipSpace_blank hb']
  rw [← hv, Json.toOption_eq_some]

end QualityGate.Wire
