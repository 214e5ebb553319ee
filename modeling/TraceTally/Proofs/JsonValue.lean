import TraceTally.Proofs.JsonText

/-! JSON values, written and read again. Every value comes back, whatever text follows it. -/
namespace TraceTally.Json

variable {α β : Type} {close : Char} {rest : List Char} {fuel n depth : Nat}

/-- Induction over values: of an array's items and of an object's fields alike. -/
@[elab_as_elim]
theorem induct {motive : Json String → Prop} (null : motive null) (bool : ∀ b, motive (bool b))
    (integer : ∀ negative n, motive (integer negative n)) (real : motive real)
    (string : ∀ s, motive (string s))
    (array : ∀ xs, (∀ x ∈ xs, motive x) → motive (array xs))
    (object : ∀ fs, (∀ f ∈ fs, motive f.2) → motive (object fs)) : ∀ j, motive j :=
  @Json.rec String motive (fun xs => ∀ x ∈ xs, motive x) (fun fs => ∀ f ∈ fs, motive f.2)
    (fun f => motive f.2) null bool integer real string array object
    (by simp) (by simp_all) (by simp) (by simp_all) (fun _ _ h => h)

mutual

/-- The value that is read where one was written. -/
def asRead : Json String → Read
  | null => null
  | bool b => bool b
  | integer negative n => integer negative n
  | real => real
  | string s => string (some s)
  | array xs => array (itemsAsRead xs)
  | object fs => object (fieldsAsRead fs)

def itemsAsRead : List (Json String) → List Read
  | [] => []
  | x :: xs => asRead x :: itemsAsRead xs

def fieldsAsRead : List (String × Json String) → List (Option String × Read)
  | [] => []
  | (k, v) :: fs => (some k, asRead v) :: fieldsAsRead fs

end

theorem itemsAsRead_eq (xs : List (Json String)) : itemsAsRead xs = xs.map asRead := by
  induction xs with
  | nil => rfl
  | cons x xs ih => simp [itemsAsRead, ih]

theorem fieldsAsRead_eq (fs : List (String × Json String)) :
    fieldsAsRead fs = fs.map fun f => (some f.1, asRead f.2) := by
  induction fs with
  | nil => rfl
  | cons f fs ih => simp [fieldsAsRead, ih]

/-- The text of an item with the line it stands on. -/
def itemText (depth : Nat) (x : Json String) : List Char := newline depth ++ print depth x

/-- The text of a field with the line it stands on. -/
def fieldText (depth : Nat) (f : String × Json String) : List Char :=
  newline depth ++ quote f.1 ++ ':' :: ' ' :: print depth f.2

/-- The text of a list after its opening bracket: items with commas between them, and the closing
bracket on a line of its own. -/
def listText (close : Char) (depth : Nat) (text : β → List Char) (x : β) (xs : List β) :
    List Char :=
  text x ++ (xs.flatMap (fun y => ',' :: text y) ++ (newline depth ++ [close]))

theorem print_array (depth : Nat) (x : Json String) (xs : List (Json String)) :
    print depth (array (x :: xs)) = '[' :: listText ']' depth (itemText (depth + 1)) x xs := by
  have hitems : printItems (depth + 1) xs = xs.flatMap fun y => ',' :: itemText (depth + 1) y := by
    induction xs with
    | nil => rfl
    | cons y ys ih => simp [printItems, itemText, ih]
  simp [print, listText, itemText, hitems]

theorem print_object (depth : Nat) (f : String × Json String) (fs : List (String × Json String)) :
    print depth (object (f :: fs)) =
      '\x7b' :: listText '\x7d' depth (fieldText (depth + 1)) f fs := by
  have hfields :
      printFields (depth + 1) fs = fs.flatMap fun g => ',' :: fieldText (depth + 1) g := by
    induction fs with
    | nil => rfl
    | cons g gs ih => simp [printFields, fieldText, ih]
  simp [print, listText, fieldText, hfields]

section

variable {item : List Char → Option (α × List Char)} {text : β → List Char} {value : β → α}

theorem listText_cons (close : Char) (depth : Nat) (text : β → List Char) (x y : β) (ys : List β) :
    listText close depth text x (y :: ys) = text x ++ ',' :: listText close depth text y ys := by
  simp [listText]

/-- Items with commas between them are read as they were written, if each one is. -/
theorem readItems_listText (hcomma : close ≠ ',') (hblank : isBlank close = false)
    (x : β) (xs : List β)
    (hitem : ∀ y ∈ x :: xs, ∀ tail, Ends tail → item (text y ++ tail) = some (value y, tail))
    (hn : xs.length < n) :
    readItems close item n (listText close depth text x xs ++ rest) =
      some ((x :: xs).map value, rest) := by
  induction xs generalizing x n with
  | nil =>
    obtain ⟨n, rfl⟩ : ∃ m, n = m + 1 := ⟨n - 1, by simp at hn; omega⟩
    have hx := hitem x (by simp) _ (ends_newline depth (close :: rest))
    simp [listText, readItems, hx, skipBlanks_newline, skipBlanks_cons hblank, hcomma]
  | cons y ys ih =>
    obtain ⟨n, rfl⟩ : ∃ m, n = m + 1 := ⟨n - 1, by simp at hn; omega⟩
    have hx := hitem x (by simp) _ (ends_comma (listText close depth text y ys ++ rest))
    have hys := ih y (fun z hz => hitem z (by simp_all)) (by simpa using hn)
    have hb : isBlank ',' = false := rfl
    rw [listText_cons, List.append_assoc, List.cons_append, readItems, hx]
    simp [skipBlanks_cons hb, hys, Text.prepend]

/-- A list that starts with an item is read up to its bracket. -/
theorem readList_listText (hcomma : close ≠ ',') (hblank : isBlank close = false)
    (x : β) (xs : List β)
    (hfirst : ∀ tail, ∃ c cs, skipBlanks (text x ++ tail) = c :: cs ∧ c ≠ close)
    (hitem : ∀ y ∈ x :: xs, ∀ tail, Ends tail → item (text y ++ tail) = some (value y, tail))
    (hn : xs.length < n) :
    readList close item n (listText close depth text x xs ++ rest) =
      some ((x :: xs).map value, rest) := by
  have hskip : ∃ c cs, skipBlanks (listText close depth text x xs ++ rest) = c :: cs ∧
      c ≠ close := by
    rw [listText, List.append_assoc]
    exact hfirst _
  obtain ⟨c, cs, hskip, hc⟩ := hskip
  rw [readList, hskip]
  simp only [hc, if_false]
  exact readItems_listText hcomma hblank x xs hitem hn

/-- The text of a list is longer than any item's and than the number of items. -/
theorem length_listText (close : Char) (depth : Nat) (text : β → List Char) (x : β) (xs : List β) :
    (∀ y ∈ x :: xs, (text y).length < (listText close depth text x xs).length) ∧
      (x :: xs).length < (listText close depth text x xs).length := by
  induction xs generalizing x with
  | nil => simp [listText, newline]; omega
  | cons z zs ih =>
    obtain ⟨hlt, hlen⟩ := ih z
    simp only [listText_cons, List.length_append, List.length_cons] at hlen ⊢
    refine ⟨?_, by omega⟩
    intro y hy
    obtain rfl | hy := List.mem_cons.mp hy
    · omega
    · have := hlt y hy
      omega

end

theorem readValue_skipBlanks {cs ds : List Char} (h : skipBlanks cs = skipBlanks ds) :
    readValue fuel cs = readValue fuel ds := by
  cases fuel with
  | zero => rfl
  | succ fuel => rw [readValue, readValue, h]

theorem readField_fieldText {f : String × Json String} {v : Read}
    (hv : readValue fuel (print depth f.2 ++ rest) = some (v, rest)) :
    readField (readValue fuel) (fieldText depth f ++ rest) = some ((some f.1, v), rest) := by
  have hquote : isBlank '"' = false := rfl
  have hcolon : isBlank ':' = false := rfl
  have hblank : readValue fuel (' ' :: (print depth f.2 ++ rest)) = some (v, rest) := by
    rw [← hv]
    exact readValue_skipBlanks rfl
  simp only [fieldText, List.append_assoc, List.cons_append, readField, skipBlanks_newline,
    quote_eq, skipBlanks_cons hquote, readString_quote, Option.bind_eq_bind, Option.bind_some,
    skipBlanks_cons hcolon, hblank]
  rfl

theorem isBlank_of_isDigit {c : Char} (h : c.isDigit = true) : isBlank c = false := by
  rw [← Bool.not_eq_true]
  intro hb
  simp only [isBlank, Bool.or_eq_true, decide_eq_true_eq] at hb
  rcases hb with ((rfl | rfl) | rfl) | rfl <;> cases h

/-- The first character of a value. It is neither a blank nor the end of a list. -/
theorem print_head (depth : Nat) (j : Json String) :
    ∃ c cs, print depth j = c :: cs ∧ isBlank c = false ∧ c ≠ ']' := by
  cases j with
  | null => exact ⟨'n', _, rfl, rfl, by simp⟩
  | bool b =>
    cases b with
    | false => exact ⟨'f', _, rfl, rfl, by simp⟩
    | true => exact ⟨'t', _, rfl, rfl, by simp⟩
  | integer negative n =>
    cases negative with
    | true => exact ⟨_, _, rfl, rfl, by simp⟩
    | false =>
      obtain ⟨c, cs, hc, hd⟩ := toDigits_eq_cons n
      refine ⟨c, cs, by simp [print, hc], isBlank_of_isDigit hd, ?_⟩
      rintro rfl
      cases hd
  | real => exact ⟨'0', _, rfl, rfl, by simp⟩
  | string s => exact ⟨_, _, rfl, rfl, by simp⟩
  | array xs => cases xs <;> exact ⟨_, _, rfl, rfl, by simp⟩
  | object fs => cases fs <;> exact ⟨_, _, rfl, rfl, by simp⟩

theorem readValue_of_isDigit {c : Char} (h : c.isDigit = true) (cs : List Char) :
    readValue (fuel + 1) (c :: cs) = readNumber false (c :: cs) := by
  rw [readValue, skipBlanks_cons (isBlank_of_isDigit h)]
  split <;> simp_all

theorem readValue_array (xs : List (Json String)) (hn : xs.length ≤ fuel)
    (hitem : ∀ x ∈ xs, ∀ tail, Ends tail →
      readValue fuel (print (depth + 1) x ++ tail) = some (x.asRead, tail)) :
    readValue (fuel + 1) (print depth (array xs) ++ rest) = some (asRead (array xs), rest) := by
  cases xs with
  | nil => rfl
  | cons x xs =>
    have hfirst : ∀ tail,
        ∃ c cs, skipBlanks (itemText (depth + 1) x ++ tail) = c :: cs ∧ c ≠ ']' := by
      intro tail
      obtain ⟨c, cs, hc, hb, hne⟩ := print_head (depth + 1) x
      refine ⟨c, cs ++ tail, ?_, hne⟩
      rw [itemText, List.append_assoc, skipBlanks_newline, hc]
      exact skipBlanks_cons hb
    have hitem' : ∀ y ∈ x :: xs, ∀ tail, Ends tail →
        readValue fuel (itemText (depth + 1) y ++ tail) = some (y.asRead, tail) := by
      intro y hy tail htail
      rw [← hitem y hy tail htail, itemText, List.append_assoc]
      exact readValue_skipBlanks (skipBlanks_newline _ _)
    have hlist : readList ']' (readValue fuel) fuel
        (listText ']' depth (itemText (depth + 1)) x xs ++ rest) =
        some ((x :: xs).map asRead, rest) :=
      readList_listText (by simp) rfl x xs hfirst hitem' hn
    have hopen : isBlank '[' = false := rfl
    rw [print_array, List.cons_append, readValue, skipBlanks_cons hopen, asRead, itemsAsRead_eq]
    simp only [hlist, Option.map_some]

theorem readValue_object (fs : List (String × Json String)) (hn : fs.length ≤ fuel)
    (hfield : ∀ f ∈ fs, ∀ tail, Ends tail →
      readValue fuel (print (depth + 1) f.2 ++ tail) = some (f.2.asRead, tail)) :
    readValue (fuel + 1) (print depth (object fs) ++ rest) = some (asRead (object fs), rest) := by
  cases fs with
  | nil => rfl
  | cons f fs =>
    have hfirst : ∀ tail,
        ∃ c cs, skipBlanks (fieldText (depth + 1) f ++ tail) = c :: cs ∧ c ≠ '\x7d' := by
      intro tail
      have hquote : isBlank '"' = false := rfl
      rw [fieldText, List.append_assoc, List.append_assoc, skipBlanks_newline, quote_eq,
        skipBlanks_cons hquote]
      exact ⟨_, _, rfl, by simp⟩
    have hlist : readList '\x7d' (readField (readValue fuel)) fuel
        (listText '\x7d' depth (fieldText (depth + 1)) f fs ++ rest) =
        some ((f :: fs).map fun g => (some g.1, g.2.asRead), rest) :=
      readList_listText (by simp) rfl f fs hfirst
        (fun g hg tail htail => readField_fieldText (hfield g hg tail htail)) hn
    have hopen : isBlank '\x7b' = false := rfl
    rw [print_object, List.cons_append, readValue, skipBlanks_cons hopen, asRead, fieldsAsRead_eq]
    simp only [hlist, Option.map_some]

theorem length_print_array (depth : Nat) (xs : List (Json String)) :
    (∀ x ∈ xs, (print (depth + 1) x).length < (print depth (array xs)).length) ∧
      xs.length < (print depth (array xs)).length := by
  cases xs with
  | nil => exact ⟨by simp, by simp [print]⟩
  | cons x xs =>
    obtain ⟨hlt, hlen⟩ := length_listText ']' depth (itemText (depth + 1)) x xs
    rw [print_array, List.length_cons]
    refine ⟨?_, by omega⟩
    intro y hy
    have hy := hlt y hy
    rw [itemText, List.length_append] at hy
    omega

theorem length_print_object (depth : Nat) (fs : List (String × Json String)) :
    (∀ f ∈ fs, (print (depth + 1) f.2).length < (print depth (object fs)).length) ∧
      fs.length < (print depth (object fs)).length := by
  cases fs with
  | nil => exact ⟨by simp, by simp [print]⟩
  | cons f fs =>
    obtain ⟨hlt, hlen⟩ := length_listText '\x7d' depth (fieldText (depth + 1)) f fs
    rw [print_object, List.length_cons]
    refine ⟨?_, by omega⟩
    intro g hg
    have hg := hlt g hg
    rw [fieldText, List.length_append, List.length_cons, List.length_cons] at hg
    omega

theorem exists_fuel {j : Json String} (h : (print depth j).length ≤ fuel) :
    ∃ m, fuel = m + 1 := by
  obtain ⟨c, cs, hc, -, -⟩ := print_head depth j
  rw [hc, List.length_cons] at h
  exact ⟨fuel - 1, by omega⟩

/-- Reading takes back what was written, whatever follows that no number goes on with. -/
theorem readValue_print (j : Json String) (hfuel : (print depth j).length ≤ fuel)
    (h : Ends rest) : readValue fuel (print depth j ++ rest) = some (j.asRead, rest) := by
  induction j using induct generalizing depth fuel rest with
  | null =>
    obtain ⟨fuel, rfl⟩ := exists_fuel hfuel
    rfl
  | bool b =>
    obtain ⟨fuel, rfl⟩ := exists_fuel hfuel
    cases b <;> rfl
  | integer negative n =>
    obtain ⟨fuel, rfl⟩ := exists_fuel hfuel
    cases negative with
    | true => exact readNumber_toDigits true n h
    | false =>
      obtain ⟨c, cs, hc, hd⟩ := toDigits_eq_cons n
      have hnum := readNumber_toDigits false n h
      rw [hc] at hnum
      simpa [print, hc, asRead, readValue_of_isDigit hd] using hnum
  | real =>
    obtain ⟨fuel, rfl⟩ := exists_fuel hfuel
    exact (readValue_of_isDigit rfl _).trans (readNumber_real h)
  | string s =>
    obtain ⟨fuel, rfl⟩ := exists_fuel hfuel
    have hquote : isBlank '"' = false := rfl
    rw [print, quote_eq, readValue, skipBlanks_cons hquote]
    simp only [readString_quote, Option.map_some, asRead]
  | array xs ih =>
    obtain ⟨fuel, rfl⟩ := exists_fuel hfuel
    obtain ⟨hitem, hlen⟩ := length_print_array depth xs
    apply readValue_array xs (by omega)
    intro x hx tail htail
    have := hitem x hx
    exact ih x hx (by omega) htail
  | object fs ih =>
    obtain ⟨fuel, rfl⟩ := exists_fuel hfuel
    obtain ⟨hfield, hlen⟩ := length_print_object depth fs
    apply readValue_object fs (by omega)
    intro f hf tail htail
    have := hfield f hf
    exact ih f hf (by omega) htail

/-- Blanks may follow the text of a value. -/
theorem parse?_pretty_append (j : Json String) (blanks : String)
    (h : ∀ c ∈ blanks.toList, isBlank c = true) : parse? (j.pretty ++ blanks) = some j.asRead := by
  have hskip : skipBlanks blanks.toList = [] := List.dropWhile_eq_nil_iff.mpr h
  have hread : readValue ((print 0 j ++ blanks.toList).length + 1) (print 0 j ++ blanks.toList) =
      some (j.asRead, blanks.toList) := by
    apply readValue_print j ?_ (ends_of_isBlank h)
    rw [List.length_append]
    omega
  rw [parse?, pretty, String.toList_append, String.toList_ofList]
  simp only [hread, Option.bind_eq_bind, Option.bind_some, hskip]
  rfl

/-- Every value is read back from its text. -/
theorem parse?_pretty (j : Json String) : parse? j.pretty = some j.asRead := by
  simpa using parse?_pretty_append j "" (by simp)

end TraceTally.Json
