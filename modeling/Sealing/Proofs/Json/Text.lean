import Sealing.Proofs.Json.Leaves
/-!
# JSON texts tell their values

A value whose numbers are integers can be told from its text, and from a longer text that begins
with it (`Writes.tells`).  Both ways to write a value are treated at once: they differ only in the
blanks between its parts, which a layout says.
-/

namespace Sealing.Json

variable {s t : List Char}

/-! ## Kinds of values -/

/-- What the first character of a text tells about its value. -/
inductive Kind where
  | null
  | bool (value : Bool)
  | number
  | string
  | array
  | object

/-- The kind of value that begins with a character, if any does. -/
def kindOf? (c : Char) : Option Kind :=
  if c.isDigit then some .number else
    match c with
    | 'n' => some .null
    | 't' => some (.bool true)
    | 'f' => some (.bool false)
    | '-' => some .number
    | '"' => some .string
    | '[' => some .array
    | '\x7b' => some .object
    | _ => none

theorem kindOf?_of_isDigit {c : Char} (h : c.isDigit = true) : kindOf? c = some .number :=
  if_pos h

theorem endsNumber_of_kindOf? {c : Char} (h : kindOf? c = none) (s : List Char) :
    EndsNumber (c :: s) := by
  apply endsNumber_cons
  cases hdigit : c.isDigit with
  | false => rfl
  | true =>
    rw [kindOf?_of_isDigit hdigit] at h
    cases h

def kind : Json → Kind
  | null => .null
  | bool value => .bool value
  | integer _ => .number
  | binary64 _ => .number
  | string _ => .string
  | array _ => .array
  | object _ => .object

/-- All numbers in the value are integers. -/
inductive Integral : Json → Prop
  | null : Integral .null
  | bool (value : Bool) : Integral (.bool value)
  | integer (value : Int) : Integral (.integer value)
  | string (value : String) : Integral (.string value)
  | array {items : List Json} (h : ∀ item ∈ items, Integral item) : Integral (.array items)
  | object {fields : List (String × Json)} (h : ∀ field ∈ fields, Integral field.2) :
    Integral (.object fields)

/-! ## Layouts -/

/-- What stands between the parts of a text: only blanks before an item, so many levels deep. -/
structure Layout where
  lineBreak : Nat → List Char
  colon : List Char
  blank : ∀ {level c}, c ∈ lineBreak level → c = ' ' ∨ c = '\n'

namespace Layout

variable (l : Layout) (level : Nat) (closing : Char)

/-- The items behind the first one, with the bracket that closes them. -/
def others : List (List Char) → List Char
  | [] => l.lineBreak level ++ [closing]
  | item :: items => ',' :: (l.lineBreak (level + 1) ++ item ++ others items)

/-- All items with the bracket that closes them. -/
def body : List (List Char) → List Char
  | [] => [closing]
  | item :: items => l.lineBreak (level + 1) ++ item ++ l.others level closing items

/-- A field of an object. -/
def field (name : String) (value : List Char) : List Char :=
  (stringText name).toList ++ (l.colon ++ value)

theorem body_cons (item : List Char) (items : List (List Char)) :
    l.body level closing (item :: items) =
      [','].intercalate ((item :: items).map (l.lineBreak (level + 1) ++ ·)) ++
        (l.lineBreak level ++ [closing]) := by
  rw [body]
  induction items generalizing item with
  | nil => rw [others, List.map_singleton, List.intercalate_singleton]
  | cons next items ih =>
    rw [others, ih, List.map_cons, List.map_cons, List.map_cons, List.intercalate_cons_cons]
    simp only [List.append_assoc, List.singleton_append]
    rfl

variable {l level closing}

/-- No value begins with the character, and no further item. -/
def Stops (c : Char) : Prop := kindOf? c = none ∧ c ≠ ','

/-- A bracket or brace that closes a value. -/
def Closes (c : Char) : Prop := c = ']' ∨ c = '\x7d'

theorem Closes.stops (h : Closes closing) : Stops closing := by
  rcases h with rfl | rfl <;> exact ⟨rfl, by decide⟩

theorem blank_of_lineBreak_eq_cons {c : Char} {rest : List Char}
    (h : l.lineBreak level = c :: rest) : c = ' ' ∨ c = '\n' :=
  l.blank (h ▸ List.mem_cons_self)

/-- Where there are no more items, another one cannot be meant. -/
theorem exists_others_nil_eq_cons (l : Layout) (level : Nat) (h : Closes closing) :
    ∃ c rest, l.others level closing [] = c :: rest ∧ Stops c := by
  rw [others]
  cases hbreak : l.lineBreak level with
  | nil => exact ⟨closing, [], rfl, h.stops⟩
  | cons c rest =>
    refine ⟨c, rest ++ [closing], rfl, ?_⟩
    rcases blank_of_lineBreak_eq_cons hbreak with rfl | rfl <;> exact ⟨rfl, by decide⟩

theorem endsNumber_others (h : Closes closing) (items : List (List Char)) (s : List Char) :
    EndsNumber (l.others level closing items ++ s) := by
  cases items with
  | nil =>
    obtain ⟨c, rest, hnil, hc⟩ := exists_others_nil_eq_cons l level h
    rw [hnil]
    exact endsNumber_of_kindOf? hc.1 _
  | cons item items => exact endsNumber_of_kindOf? rfl _

theorem others_nil_append_ne (h : Closes closing) (item : List Char) (items : List (List Char)) :
    l.others level closing [] ++ s ≠ l.others level closing (item :: items) ++ t := by
  intro hsame
  obtain ⟨c, rest, hnil, -, hc⟩ := exists_others_nil_eq_cons l level h
  rw [hnil, others, List.cons_append, List.cons_append, List.cons.injEq] at hsame
  exact hc hsame.1

/-- A value begins there. -/
def Leads (text : List Char) : Prop := ∃ c rest, text = c :: rest ∧ kindOf? c ≠ none

theorem body_nil_append_ne (h : Closes closing) {item : List Char} (hitem : Leads item)
    (items : List (List Char)) :
    l.body level closing [] ++ s ≠ l.body level closing (item :: items) ++ t := by
  intro hsame
  obtain ⟨c, rest, rfl, hc⟩ := hitem
  rw [body, body] at hsame
  -- Where the bracket would be there is a blank or, without any, the beginning of the item.
  cases hbreak : l.lineBreak (level + 1) with
  | nil =>
    rw [hbreak] at hsame
    cases hsame
    exact hc h.stops.1
  | cons d blanks =>
    rw [hbreak] at hsame
    cases hsame
    rcases blank_of_lineBreak_eq_cons hbreak with rfl | rfl <;> rcases h with h | h <;> cases h

variable {α : Type} {text : α → List Char} {xs ys : List α}

/-- Items that are told by their texts are told by the texts of all of them together. -/
theorem others_append_inj (h : Closes closing) (hitems : ∀ x ∈ xs, ∀ y ∈ ys, Tells text x y)
    (hsame : l.others level closing (xs.map text) ++ s = l.others level closing (ys.map text) ++ t) :
    xs = ys ∧ s = t := by
  induction xs generalizing ys with
  | nil =>
    cases ys with
    | nil => exact ⟨rfl, List.append_cancel_left hsame⟩
    | cons y ys => exact absurd hsame (others_nil_append_ne h _ _)
  | cons x xs ih =>
    cases ys with
    | nil => exact absurd hsame.symm (others_nil_append_ne h _ _)
    | cons y ys =>
      rw [List.map_cons, List.map_cons, others, others, List.cons_append, List.cons_append,
        List.cons.injEq] at hsame
      simp only [List.append_assoc, List.append_cancel_left_eq] at hsame
      obtain ⟨rfl, hrest⟩ := hitems x List.mem_cons_self y List.mem_cons_self
        (endsNumber_others h _ _) (endsNumber_others h _ _) hsame.2
      have hrests (x' : α) (hx : x' ∈ xs) (y' : α) (hy : y' ∈ ys) : Tells text x' y' :=
        hitems x' (List.mem_cons_of_mem _ hx) y' (List.mem_cons_of_mem _ hy)
      obtain ⟨rfl, rfl⟩ := ih hrests hrest
      exact ⟨rfl, rfl⟩

theorem body_append_inj (h : Closes closing) (hxs : ∀ x ∈ xs, Leads (text x))
    (hys : ∀ y ∈ ys, Leads (text y)) (hitems : ∀ x ∈ xs, ∀ y ∈ ys, Tells text x y)
    (hsame : l.body level closing (xs.map text) ++ s = l.body level closing (ys.map text) ++ t) :
    xs = ys ∧ s = t := by
  cases xs with
  | nil =>
    cases ys with
    | nil => exact ⟨rfl, List.append_cancel_left hsame⟩
    | cons y ys => exact absurd hsame (body_nil_append_ne h (hys y List.mem_cons_self) _)
  | cons x xs =>
    cases ys with
    | nil => exact absurd hsame.symm (body_nil_append_ne h (hxs x List.mem_cons_self) _)
    -- With a comma in front these are items behind a first one.
    | cons y ys => exact others_append_inj h hitems (congrArg (',' :: ·) hsame)

end Layout

/-! ## Values -/

/-- The function writes values in the layout, each by its level. -/
structure Writes (l : Layout) (write : Nat → Json → List Char) : Prop where
  null : ∀ level, write level null = "null".toList
  bool : ∀ level value, write level (.bool value) = if value then "true".toList else "false".toList
  integer : ∀ level value, write level (.integer value) = (toString value).toList
  string : ∀ level value, write level (.string value) = (stringText value).toList
  array : ∀ level items,
    write level (.array items) = '[' :: l.body level ']' (items.map (write (level + 1)))
  object : ∀ level fields,
    write level (.object fields) = '\x7b' :: l.body level '\x7d' (fields.map fun field =>
      l.field field.1 (write (level + 1) field.2))

namespace Writes

variable {l : Layout} {write : Nat → Json → List Char} {a b : Json}

/-- The first character tells the kind of a value. -/
theorem exists_eq_cons (hw : Writes l write) (ha : Integral a) (level : Nat) :
    ∃ c rest, write level a = c :: rest ∧ kindOf? c = some a.kind := by
  cases ha with
  | null => exact ⟨'n', _, hw.null level, rfl⟩
  | bool value =>
    cases value with
    | false => exact ⟨'f', _, hw.bool level false, rfl⟩
    | true => exact ⟨'t', _, hw.bool level true, rfl⟩
  | integer value =>
    rw [hw.integer]
    cases value with
    | ofNat n =>
      obtain ⟨c, rest, hn, hc⟩ := exists_toDigits_eq_cons n
      exact ⟨c, rest, (toList_toString_ofNat n).trans hn, kindOf?_of_isDigit hc⟩
    | negSucc n => exact ⟨'-', _, toList_toString_negSucc n, rfl⟩
  | string value =>
    rw [hw.string]
    exact ⟨'"', _, toList_stringText value, rfl⟩
  | array h => exact ⟨'[', _, hw.array level _, rfl⟩
  | object h => exact ⟨'\x7b', _, hw.object level _, rfl⟩

theorem leads (hw : Writes l write) (ha : Integral a) (level : Nat) : Layout.Leads (write level a) := by
  obtain ⟨c, rest, h, hc⟩ := hw.exists_eq_cons ha level
  refine ⟨c, rest, h, ?_⟩
  rw [hc]
  nofun

theorem kind_eq (hw : Writes l write) (ha : Integral a) (hb : Integral b) {level : Nat}
    (h : write level a ++ s = write level b ++ t) : a.kind = b.kind := by
  obtain ⟨c, rest, hfirst, hc⟩ := hw.exists_eq_cons ha level
  obtain ⟨d, rest', hsecond, hd⟩ := hw.exists_eq_cons hb level
  rw [hfirst, hsecond, List.cons_append, List.cons_append, List.cons.injEq] at h
  rw [h.1, hd, Option.some.injEq] at hc
  exact hc.symm

/-- A field is told by its name and the text of its value. -/
theorem field_tells {level : Nat} {f g : String × Json} (h : Tells (write level) f.2 g.2) :
    Tells (fun field => l.field field.1 (write level field.2)) f g := by
  intro s t hs ht hsame
  simp only [Layout.field, List.append_assoc] at hsame
  obtain ⟨hname, hvalue⟩ := stringText_append_inj hsame
  obtain ⟨hcontent, rfl⟩ := h hs ht (List.append_cancel_left hvalue)
  exact ⟨Prod.ext hname hcontent, rfl⟩

theorem field_leads (l : Layout) (name : String) (value : List Char) :
    Layout.Leads (l.field name value) := by
  rw [Layout.field, toList_stringText]
  exact ⟨'"', _, rfl, nofun⟩

/-- The text of a value whose numbers are integers tells the value. -/
theorem tells (hw : Writes l write) (ha : Integral a) (hb : Integral b) (level : Nat) :
    Tells (write level) a b := by
  -- By induction on the first value; the second is of its kind, since the texts begin alike.
  induction ha generalizing b level with
  | null =>
    intro s t _ _ h
    have hkind := hw.kind_eq .null hb h
    cases hb with
    | null => exact ⟨rfl, List.append_cancel_left h⟩
    | _ => cases hkind
  | bool value =>
    intro s t _ _ h
    have hkind := hw.kind_eq (.bool value) hb h
    cases hb with
    | bool value' =>
      cases hkind
      exact ⟨rfl, List.append_cancel_left h⟩
    | _ => cases hkind
  | integer value =>
    intro s t hs ht h
    have hkind := hw.kind_eq (.integer value) hb h
    cases hb with
    | integer value' =>
      rw [hw.integer, hw.integer] at h
      obtain ⟨rfl, rfl⟩ := integer_tells _ _ hs ht h
      exact ⟨rfl, rfl⟩
    | _ => cases hkind
  | string value =>
    intro s t _ _ h
    have hkind := hw.kind_eq (.string value) hb h
    cases hb with
    | string value' =>
      rw [hw.string, hw.string] at h
      obtain ⟨rfl, rfl⟩ := stringText_append_inj h
      exact ⟨rfl, rfl⟩
    | _ => cases hkind
  | array hitems ih =>
    intro s t _ _ h
    have hkind := hw.kind_eq (.array hitems) hb h
    cases hb with
    | array hitems' =>
      rw [hw.array, hw.array, List.cons_append, List.cons_append, List.cons.injEq] at h
      obtain ⟨rfl, rfl⟩ := Layout.body_append_inj (.inl rfl)
        (fun x hx => hw.leads (hitems x hx) _) (fun y hy => hw.leads (hitems' y hy) _)
        (fun x hx y hy => ih x hx (hitems' y hy) _) h.2
      exact ⟨rfl, rfl⟩
    | _ => cases hkind
  | object hfields ih =>
    intro s t _ _ h
    have hkind := hw.kind_eq (.object hfields) hb h
    cases hb with
    | object hfields' =>
      rw [hw.object, hw.object, List.cons_append, List.cons_append, List.cons.injEq] at h
      obtain ⟨rfl, rfl⟩ := Layout.body_append_inj (.inr rfl) (fun _ _ => field_leads l _ _)
        (fun _ _ => field_leads l _ _)
        (fun f hf g hg => field_tells (ih f hf (hfields' g hg) _)) h.2
      exact ⟨rfl, rfl⟩
    | _ => cases hkind

end Writes

/-! ## The two texts -/

theorem compactItems_eq (items : List Json) : compactItems items = items.map compact := by
  induction items with
  | nil => rfl
  | cons item items ih => rw [compactItems, ih, List.map_cons]

theorem compactFields_eq (fields : List (String × Json)) :
    compactFields fields = fields.map fun f => stringText f.1 ++ ":" ++ compact f.2 := by
  induction fields with
  | nil => rfl
  | cons field fields ih => rw [compactFields, ih, List.map_cons]

theorem prettyItems_eq (level : Nat) (items : List Json) :
    prettyItems level items = items.map (prettyAt level) := by
  induction items with
  | nil => rfl
  | cons item items ih => rw [prettyItems, ih, List.map_cons]

theorem prettyFields_eq (level : Nat) (fields : List (String × Json)) :
    prettyFields level fields = fields.map fun f => stringText f.1 ++ ": " ++ prettyAt level f.2 := by
  induction fields with
  | nil => rfl
  | cons field fields ih => rw [prettyFields, ih, List.map_cons]

/-- No blanks at all. -/
def dense : Layout where
  lineBreak _ := []
  colon := [':']
  blank h := by cases h

/-- Each item on a line of its own. -/
def spread : Layout where
  lineBreak level := (lineBreak level).toList
  colon := [':', ' ']
  blank := by
    intro level c h
    rw [lineBreak, String.toList_append, String.toList_ofList, String.toList_ofList,
      List.singleton_append] at h
    rcases List.mem_cons.mp h with rfl | h
    · exact .inr rfl
    · exact .inl (List.eq_of_mem_replicate h)

section
variable {opening closing : String} {first last : Char}

theorem toList_dense (hopening : opening.toList = [first]) (hclosing : closing.toList = [last])
    (level : Nat) (items : List String) : (opening ++ ",".intercalate items ++ closing).toList =
      first :: dense.body level last (items.map String.toList) := by
  rw [String.toList_append, String.toList_append, hopening, hclosing, String.toList_intercalate]
  cases items with
  | nil => rfl
  | cons item items =>
    rw [List.map_cons, Layout.body_cons, ← List.map_cons]
    simp only [dense, List.nil_append, List.map_id', List.cons_append]
    rfl

theorem toList_block (hopening : opening.toList = [first]) (hclosing : closing.toList = [last])
    (level : Nat) (items : List String) : (block level opening closing items).toList =
      first :: spread.body level last (items.map String.toList) := by
  cases items with
  | nil =>
    rw [block, String.toList_append, hopening, hclosing]
    rfl
  | cons item items =>
    have hbreak : (String.toList ∘ fun item => lineBreak (level + 1) ++ item) =
        (fun item => spread.lineBreak (level + 1) ++ item) ∘ String.toList := by
      funext item
      exact String.toList_append
    rw [List.map_cons, Layout.body_cons, ← List.map_cons, List.map_map, ← hbreak, ← List.map_map,
      block, String.toList_append, String.toList_append, String.toList_append, hopening, hclosing,
      String.toList_intercalate, List.append_assoc, List.append_assoc]
    · rfl
    · nofun

end

theorem compact_writes : Writes dense fun _ value => (compact value).toList where
  null _ := rfl
  bool _ value := by cases value <;> rfl
  integer _ _ := rfl
  string _ _ := rfl
  array level items := by
    rw [compact, toList_dense rfl rfl level, compactItems_eq, List.map_map]
    rfl
  object level fields := by
    have hfield : (String.toList ∘ fun f : String × Json => stringText f.1 ++ ":" ++ compact f.2) =
        fun f => dense.field f.1 (compact f.2).toList := by
      funext f
      rw [Function.comp, String.toList_append, String.toList_append, List.append_assoc]
      rfl
    rw [compact, toList_dense rfl rfl level, compactFields_eq, List.map_map, hfield]
    rfl

theorem prettyAt_writes : Writes spread fun level value => (prettyAt level value).toList where
  null _ := rfl
  bool _ value := by cases value <;> rfl
  integer _ _ := rfl
  string _ _ := rfl
  array level items := by
    rw [prettyAt, toList_block rfl rfl level, prettyItems_eq, List.map_map]
    rfl
  object level fields := by
    have hfield : (String.toList ∘ fun f : String × Json =>
        stringText f.1 ++ ": " ++ prettyAt (level + 1) f.2) =
        fun f => spread.field f.1 (prettyAt (level + 1) f.2).toList := by
      funext f
      rw [Function.comp, String.toList_append, String.toList_append, List.append_assoc]
      rfl
    rw [prettyAt, toList_block rfl rfl level, prettyFields_eq, List.map_map, hfield]
    rfl

variable {a b : Json}

/-- Values whose numbers are integers have the same text without blanks only if they are the same. -/
theorem Integral.compact_inj (ha : Integral a) (hb : Integral b) :
    compact a = compact b ↔ a = b := by
  constructor
  · intro h
    exact (compact_writes.tells ha hb 0).eq (congrArg String.toList h)
  · rintro rfl
    rfl

/-- The same of the text with one item a line. -/
theorem Integral.pretty_inj (ha : Integral a) (hb : Integral b) : pretty a = pretty b ↔ a = b := by
  constructor
  · intro h
    exact (prettyAt_writes.tells ha hb 0).eq (congrArg String.toList h)
  · rintro rfl
    rfl

end Sealing.Json
