import QualityGate.Proofs.Json.Document

namespace QualityGate.Json

open Text.Digits

namespace Document

/-- Numbers and strings of the document are those of the grammar. -/
inductive WellFormed : Document → Prop
  | null : WellFormed null
  | bool (b : Bool) : WellFormed (bool b)
  | number {n : List Char} (h : IsNumeral n) : WellFormed (number n)
  | string {body : List Char} (h : IsBody body) : WellFormed (string body)
  | array {items : List Document} (h : ∀ d ∈ items, WellFormed d) : WellFormed (array items)
  | object {members : List (List Char × Document)}
      (hn : ∀ m ∈ members, IsBody m.1) (h : ∀ m ∈ members, WellFormed m.2) :
      WellFormed (object members)

theorem WellFormed.array_nil : (Document.array []).WellFormed :=
  .array nofun

theorem WellFormed.array_cons {d : Document} {ds : List Document} (hd : d.WellFormed)
    (h : (Document.array ds).WellFormed) : (Document.array (d :: ds)).WellFormed := by
  cases h with
  | array h => exact .array (List.forall_mem_cons.mpr ⟨hd, h⟩)

theorem WellFormed.object_nil : (Document.object []).WellFormed :=
  .object nofun nofun

theorem WellFormed.object_cons {name : List Char} {d : Document} {ms : List (List Char × Document)}
    (hn : IsBody name) (hd : d.WellFormed) (h : (Document.object ms).WellFormed) :
    (Document.object ((name, d) :: ms)).WellFormed := by
  cases h with
  | object hns h =>
    exact .object (List.forall_mem_cons.mpr ⟨hn, hns⟩) (List.forall_mem_cons.mpr ⟨hd, h⟩)

mutual

def chars : Document → List Char
  | null => ['n', 'u', 'l', 'l']
  | bool true => ['t', 'r', 'u', 'e']
  | bool false => ['f', 'a', 'l', 's', 'e']
  | number n => n
  | string body => '"' :: (body ++ ['"'])
  | array items => '[' :: itemChars items
  | object members => '\x7b' :: memberChars members

def itemChars : List Document → List Char
  | [] => [']']
  | [d] => chars d ++ [']']
  | d :: d' :: ds => chars d ++ ',' :: itemChars (d' :: ds)

def memberChars : List (List Char × Document) → List Char
  | [] => ['\x7d']
  | [(name, d)] => '"' :: (name ++ '"' :: ':' :: (chars d ++ ['\x7d']))
  | (name, d) :: m :: ms => '"' :: (name ++ '"' :: ':' :: (chars d ++ ',' :: memberChars (m :: ms)))

end

def text (d : Document) : String :=
  String.ofList d.chars

/-- The characters of the document spell it, whatever follows them. -/
def SpellsItself (d : Document) : Prop :=
  ∀ rest, Spells d (d.chars ++ rest) rest

theorem spells_itemChars {ds : List Document} (h : ∀ d ∈ ds, d.SpellsItself) (hn : ds ≠ [])
    {first : Bool} {lead : List Char} (hl : Lead first lead) (rest : List Char) :
    SpellsItems first ds (lead ++ (itemChars ds ++ rest)) rest := by
  induction ds generalizing first lead with
  | nil => exact absurd rfl hn
  | cons d ds ih =>
    have hd := h d List.mem_cons_self
    cases ds with
    | nil =>
      rw [itemChars, List.append_assoc]
      exact .cons hl (hd _) (.close rest blank_nil)
    | cons d' ds =>
      have hi := ih (fun x hx => h x (List.mem_cons_of_mem d hx)) (List.cons_ne_nil d' ds)
        (.next blank_nil blank_nil)
      rw [itemChars, List.append_assoc]
      exact .cons hl (hd _) hi

theorem spells_memberChars {ms : List (List Char × Document)}
    (hb : ∀ m ∈ ms, IsBody m.1) (h : ∀ m ∈ ms, m.2.SpellsItself) (hn : ms ≠ []) {first : Bool}
    {lead : List Char} (hl : Lead first lead) (rest : List Char) :
    SpellsMembers first ms (lead ++ (memberChars ms ++ rest)) rest := by
  induction ms generalizing first lead with
  | nil => exact absurd rfl hn
  | cons m ms ih =>
    obtain ⟨name, d⟩ := m
    have hname : IsBody name := hb _ List.mem_cons_self
    have hd : d.SpellsItself := h _ List.mem_cons_self
    cases ms with
    | nil =>
      have hs := SpellsMembers.cons hl hname blank_nil blank_nil (hd _) (.close rest blank_nil)
      simpa [memberChars] using hs
    | cons m ms =>
      have hi := ih (fun x hx => hb x (List.mem_cons_of_mem _ hx))
        (fun x hx => h x (List.mem_cons_of_mem _ hx)) (List.cons_ne_nil m ms)
        (.next blank_nil blank_nil)
      have hs := SpellsMembers.cons hl hname blank_nil blank_nil (hd _) hi
      simpa [memberChars] using hs

theorem WellFormed.spells {d : Document} (h : d.WellFormed) : d.SpellsItself := by
  induction h with
  | null => exact fun rest => .null rest
  | bool b =>
    cases b with
    | true => exact fun rest => .true rest
    | false => exact fun rest => .false rest
  | number h => exact fun rest => .number rest h
  | string h =>
    intro rest
    rw [chars, List.cons_append, List.append_assoc]
    exact .string rest h
  | @array items h ih =>
    intro rest
    rw [chars]
    cases items with
    | nil => exact .array (.close rest blank_nil)
    | cons d ds =>
      exact .array (spells_itemChars ih (List.cons_ne_nil d ds) (.first blank_nil) rest)
  | @object ms hn h ih =>
    intro rest
    rw [chars]
    cases ms with
    | nil => exact .object (.close rest blank_nil)
    | cons m ms =>
      exact .object (spells_memberChars hn ih (List.cons_ne_nil m ms) (.first blank_nil) rest)

theorem WellFormed.spelled {d : Document} (h : d.WellFormed) : d.Spelled d.text := by
  refine ⟨[], d.chars, [], blank_nil, blank_nil, ?_, ?_⟩
  · have hs := h.spells []
    rwa [List.append_nil] at hs
  · rw [text, String.toList_ofList, List.nil_append]

end Document

mutual

/-- The document of a value, with numbers and strings as they are printed. -/
def document : Json → Document
  | null => .null
  | bool b => .bool b
  | integer z => .number (signed z).toList
  | real x => .number (Number.Notation.json x).toList
  | string s => .string (s.toList.flatMap escape)
  | array items => .array (itemDocuments items)
  | object members => .object (memberDocuments members)

def itemDocuments : List Json → List Document
  | [] => []
  | item :: items => document item :: itemDocuments items

def memberDocuments : List (String × Json) → List (List Char × Document)
  | [] => []
  | (name, value) :: members =>
    (name.toList.flatMap escape, document value) :: memberDocuments members

end

theorem itemDocuments_eq_map (items : List Json) : itemDocuments items = items.map document := by
  induction items with
  | nil => rfl
  | cons item items ih => rw [itemDocuments, ih, List.map_cons]

def memberDocument (m : String × Json) : List Char × Document :=
  (m.1.toList.flatMap escape, document m.2)

theorem memberDocuments_eq_map (members : List (String × Json)) :
    memberDocuments members = members.map memberDocument := by
  induction members with
  | nil => rfl
  | cons m members ih => rw [memberDocuments, ih, List.map_cons, memberDocument]

mutual

theorem chars_document : (j : Json) → j.document.chars = compactChars j
  | null | bool true | bool false | integer _ | real _ => rfl
  | string _ => rfl
  | array items => by rw [document, Document.chars, compactChars, itemChars_documents items]
  | object members => by
    rw [document, Document.chars, compactChars, memberChars_documents members]

theorem itemChars_documents : (items : List Json) →
    Document.itemChars (itemDocuments items) = compactItems items
  | [] => rfl
  | [item] => by rw [itemDocuments, itemDocuments, Document.itemChars, compactItems,
      chars_document item]
  | item :: next :: items => by
    have hi := itemChars_documents (next :: items)
    rw [itemDocuments] at hi ⊢
    rw [itemDocuments, Document.itemChars, compactItems, chars_document item, hi]

theorem memberChars_documents : (members : List (String × Json)) →
    Document.memberChars (memberDocuments members) = compactMembers members
  | [] => rfl
  | [(name, value)] => by
    rw [memberDocuments, memberDocuments, Document.memberChars, compactMembers,
      chars_document value, quote, List.cons_append, List.append_assoc]
    rfl
  | (name, value) :: next :: members => by
    have hi := memberChars_documents (next :: members)
    obtain ⟨name', value'⟩ := next
    rw [memberDocuments] at hi
    rw [memberDocuments, memberDocuments, Document.memberChars, compactMembers,
      chars_document value, hi, quote, List.cons_append, List.append_assoc]
    rfl

end

theorem isBody_escape (c : Char) {cs : List Char} (h : IsBody cs) : IsBody (escape c ++ cs) := by
  unfold escape
  split_ifs with h₁ h₂ h₃ h₄ h₅ h₆ h₇ h₈
  any_goals exact .short rfl h
  · rw [hex_four h₈]
    exact .unicode (natural?_four h₈) h
  · exact .plain h₁ h₂ h₈ h

theorem isBody_flatMap (cs : List Char) : IsBody (cs.flatMap escape) := by
  induction cs with
  | nil => exact .nil
  | cons c cs ih => exact isBody_escape c ih

theorem bodyText?_flatMap (s : String) : bodyText? (s.toList.flatMap escape) = some s := by
  rw [bodyText?, stringText_flatMap]
  rfl

/-- A text in which nothing has to be escaped stands for itself. -/
structure Bare (s : String) : Prop where
  flatMap : s.toList.flatMap escape = s.toList

theorem Bare.isBody {s : String} (h : Bare s) : IsBody s.toList := by
  rw [← h.flatMap]
  exact isBody_flatMap s.toList

theorem Bare.bodyText? {s : String} (h : Bare s) : Json.bodyText? s.toList = some s := by
  rw [← h.flatMap]
  exact bodyText?_flatMap s

theorem isUnsigned_decimal (n : Nat) : IsUnsigned (decimal n).toList := by
  have hw : IsWhole (decimal n).toList := by
    rw [toList_decimal]
    by_cases h : n = 0
    · subst h
      rw [Nat.toDigits_zero]
      exact .zero
    · obtain ⟨c, cs, hc, hz⟩ := exists_toDigits (Nat.pos_of_ne_zero h)
      have hd : IsDigits (c :: cs) := fun d hd =>
        isDigit_of_mem_decimal (n := n) (by rwa [toList_decimal, hc])
      rw [hc]
      exact .positive (hd c List.mem_cons_self) hz hd.tail
  have hu := IsUnsigned.parts hw .none .none
  rwa [List.append_nil, List.append_nil] at hu

theorem Plain.numeralValue? {z : Int} (h : Plain (integer z)) :
    Json.numeralValue? (signed z).toList = some (.integer z) := by
  have hs : Stops [] := nofun
  cases h with
  | @natural n h =>
    have hn := number_decimal false (Nat.le_sub_one_of_lt h) hs
    rw [List.append_nil] at hn
    rw [signed_natural, numeralValue?_unsigned (isUnsigned_decimal n), hn]
    rfl
  | @negative n h h' =>
    have hm : n ≤ maxSignificand := h'.trans (by decide)
    have hn := number_decimal true hm hs
    rw [List.append_nil] at hn
    rw [signed_negative h, Json.numeralValue?, hn, plainNumber_negative h h']
    rfl

theorem Plain.wellFormed {j : Json} (h : Plain j) : j.document.WellFormed := by
  induction h with
  | null => exact .null
  | bool b => exact .bool b
  | @natural n h =>
    rw [document, signed_natural]
    exact .number (.unsigned (isUnsigned_decimal n))
  | @negative n h h' =>
    rw [document, signed_negative h]
    exact .number (.negative (isUnsigned_decimal n))
  | string s => exact .string (isBody_flatMap s.toList)
  | array h ih =>
    rw [document, itemDocuments_eq_map]
    refine .array fun d hd => ?_
    obtain ⟨j, hj, rfl⟩ := List.mem_map.mp hd
    exact ih j hj
  | object hs h ih =>
    rw [document, memberDocuments_eq_map]
    refine .object (fun m hm => ?_) fun m hm => ?_
    all_goals obtain ⟨x, hx, rfl⟩ := List.mem_map.mp hm
    · exact isBody_flatMap _
    · exact ih x hx

theorem spelled_compact {j : Json} (h : Plain j) : j.document.Spelled j.compact := by
  have hs := h.wellFormed.spelled
  rwa [Document.text, chars_document] at hs

end QualityGate.Json
