import FlowRouting.Proofs.Json.Strings

/-!
# Documents that were written

Reading a written document gives the document back, in either layout and with anything behind it
that may stand behind a value. Only documents that lose nothing in writing are read back: those
without flawed places, whose numbers are integers of 64 bits. Other numbers are written in the
shortest way that stands for them, but reading scales what it reads and may miss them.

The readers are given fuel, of which every call takes a unit. At most three of them call each other
before a character is read, so three times the length of what is to be read is enough; and a bound
by the length is one that can be carried through the induction.
-/

namespace FlowRouting.Json

/-- A document is plain if no place in it is flawed and all its numbers are integers of 64 bits. -/
inductive IsPlain : Json → Prop where
  | null : IsPlain .null
  | bool (b : Bool) : IsPlain (.bool b)
  | natural {n : Nat} (h : n ≤ maxSignificand) : IsPlain (.number (.natural n))
  | negative {n : Nat} (hpos : 0 < n) (h : n ≤ Nat.pow 2 63) : IsPlain (.number (.negative n))
  | string (s : String) : IsPlain (.string s)
  | array {items : List Json} (h : ∀ item ∈ items, IsPlain item) : IsPlain (.array items)
  | object {members : List (String × Json)} (h : ∀ m ∈ members, IsPlain m.2) :
      IsPlain (.object members)

/-- A layout puts nothing but blanks between the parts of a document. -/
structure Style.IsBlank (style : Style) : Prop where
  lineBreak : ∀ depth, ∀ c ∈ style.lineBreak depth, isJsonBlank c = true
  afterColon : ∀ c ∈ style.afterColon, isJsonBlank c = true

theorem Style.isBlank_compact : Style.compact.IsBlank where
  lineBreak _ := List.forall_mem_nil _
  afterColon := List.forall_mem_nil _

theorem Style.isBlank_pretty : Style.pretty.IsBlank where
  lineBreak depth c h := by
    rcases List.mem_cons.mp h with rfl | h
    · rfl
    · rw [List.eq_of_mem_replicate h]
      rfl
  afterColon c h := by
    rw [List.mem_singleton.mp h]
    rfl

/-! ## Around a value -/

/-- A text that may stand behind a value. -/
private def EndsValue (cs : List Char) : Prop :=
  ∀ c ∈ cs.head?, isJsonBlank c = true ∨ c = ',' ∨ c = ']' ∨ c = '}'

/-- A text that begins as values do, with neither a blank nor the end of a list. -/
private def StartsValue (cs : List Char) : Prop :=
  ∃ c rest, cs = c :: rest ∧ isJsonBlank c = false ∧ c ≠ ']'

variable {blanks cs rest : List Char}

private theorem EndsValue.cons {c : Char} (h : isJsonBlank c = true ∨ c = ',' ∨ c = ']' ∨ c = '}') :
    EndsValue (c :: rest) := by
  rintro _ ⟨⟩
  exact h

private theorem EndsValue.blanks_append (hblanks : ∀ c ∈ blanks, isJsonBlank c = true)
    (hrest : EndsValue rest) : EndsValue (blanks ++ rest) := by
  cases blanks with
  | nil => exact hrest
  | cons c blanks => exact .cons (.inl (hblanks c List.mem_cons_self))

private theorem EndsValue.endsDigits (h : EndsValue rest) : Text.EndsDigits rest := by
  intro c hc
  rcases h c hc with hblank | rfl | rfl | rfl
  · simp only [isJsonBlank, Bool.or_eq_true, beq_iff_eq] at hblank
    rcases hblank with ((rfl | rfl) | rfl) | rfl <;> rfl
  all_goals rfl

private theorem StartsValue.append (h : StartsValue cs) (rest : List Char) :
    StartsValue (cs ++ rest) := by
  obtain ⟨c, cs, rfl, hc⟩ := h
  exact ⟨c, cs ++ rest, rfl, hc⟩

private theorem skipBlanks_blanks_append (hblanks : ∀ c ∈ blanks, isJsonBlank c = true) :
    skipBlanks (blanks ++ cs) = skipBlanks cs :=
  List.dropWhile_append_of_pos hblanks

private theorem skipBlanks_cons {c : Char} (hc : isJsonBlank c = false) :
    skipBlanks (c :: rest) = c :: rest :=
  List.dropWhile_cons_of_neg (by simp [hc])

private theorem skipBlanks_blanks_append_cons {c : Char}
    (hblanks : ∀ c ∈ blanks, isJsonBlank c = true) (hc : isJsonBlank c = false) :
    skipBlanks (blanks ++ c :: rest) = c :: rest := by
  rw [skipBlanks_blanks_append hblanks, skipBlanks_cons hc]

private theorem isJsonBlank_of_isDigit {c : Char} (hc : c.isDigit = true) :
    isJsonBlank c = false := by
  rw [Bool.eq_false_iff]
  intro hblank
  simp only [isJsonBlank, Bool.or_eq_true, beq_iff_eq] at hblank
  rcases hblank with ((rfl | rfl) | rfl) | rfl <;> exact absurd hc (by decide)

/-! ## Numbers -/

private theorem foldl_pushWhole {v : Nat} (h : Text.foldDigits v cs ≤ maxSignificand) :
    cs.foldl Significand.pushWhole ⟨v, 0, false⟩ = ⟨Text.foldDigits v cs, 0, false⟩ := by
  induction cs generalizing v with
  | nil => rfl
  | cons c cs ih =>
    have hnext : v * 10 + Text.digitValue c = 10 * v + Text.digitValue c := by rw [Nat.mul_comm]
    -- A significand only grows, so it has not exceeded its bound before.
    have hle : 10 * v + Text.digitValue c ≤ maxSignificand :=
      Nat.le_trans (Text.le_foldDigits _ cs) h
    rw [List.foldl_cons, Significand.pushWhole]
    simp only [hnext, Bool.false_or, decide_eq_true_eq, Nat.not_lt.mpr hle, if_false]
    exact ih h

private theorem readNumber_toDigits_append {n : Nat} (negative : Bool) (hn : n ≤ maxSignificand)
    (hrest : EndsValue rest) :
    readNumber negative (Nat.toDigits 10 n ++ rest) =
      (numberLeaf (integerNumeral negative n), some rest) := by
  obtain ⟨first, more, hdigits, -⟩ := Text.exists_digit_cons n
  have hleading : (first == '0' && !more.isEmpty) = false := by
    by_cases hfirst : first = '0'
    · rw [hfirst] at hdigits
      rw [Text.toDigits_eq_zero_cons hdigits, List.isEmpty_nil, Bool.not_true, Bool.and_false]
    · simp [hfirst]
  have hfold : (first :: more).foldl Significand.pushWhole ⟨0, 0, false⟩ = ⟨n, 0, false⟩ := by
    have hvalue : Text.foldDigits 0 (first :: more) = n := by
      rw [← hdigits, Text.foldDigits_toDigits]
    rw [foldl_pushWhole (by rw [hvalue]; exact hn), hvalue]
  rw [readNumber, Text.spanDigits_toDigits_append n hrest.endsDigits, hdigits]
  simp only [hleading, Bool.false_eq_true, if_false, hfold]
  -- Neither a fraction nor an exponent follows.
  split
  · exact absurd (hrest _ rfl) (by decide)
  · exact absurd (hrest _ rfl) (by decide)
  · exact absurd (hrest _ rfl) (by decide)
  · rfl

/-! ## Steps of the readers -/

private theorem readValue_blanks_append {fuel : Nat}
    (hblanks : ∀ c ∈ blanks, isJsonBlank c = true) :
    readValue fuel (blanks ++ cs) = readValue fuel cs := by
  cases fuel with
  | zero => rfl
  | succ fuel => rw [readValue, readValue, skipBlanks_blanks_append hblanks]

private theorem readValue_digit {fuel : Nat} {c : Char} (hc : c.isDigit = true) :
    readValue (fuel + 1) (c :: rest) = readNumber false (c :: rest) := by
  rw [readValue, skipBlanks_cons (isJsonBlank_of_isDigit hc)]
  split
  case h_9 h =>
    obtain ⟨rfl, rfl⟩ := List.cons.inj h
    rw [if_pos hc]
  case h_1 h => cases h
  all_goals
    next h =>
      obtain ⟨rfl, -⟩ := List.cons.inj h
      exact absurd hc (by decide)

private theorem readValue_minus (fuel : Nat) (cs : List Char) :
    readValue (fuel + 1) ('-' :: cs) = readNumber true cs :=
  rfl

private theorem readValue_quote {fuel : Nat} {s : String} (h : readString cs = (.ok s, some rest)) :
    readValue (fuel + 1) ('"' :: cs) = (.string s, some rest) := by
  rw [readValue, skipBlanks_cons rfl]
  simp only [h]
  rfl

private theorem readValue_bracket (fuel : Nat) (cs : List Char) :
    readValue (fuel + 1) ('[' :: cs) = (readItems fuel true cs).map .array id :=
  rfl

private theorem readValue_brace (fuel : Nat) (cs : List Char) :
    readValue (fuel + 1) ('{' :: cs) = (readMembers fuel true cs).map .object id :=
  rfl

private theorem readItems_end {fuel : Nat} {first : Bool}
    (hblanks : ∀ c ∈ blanks, isJsonBlank c = true) :
    readItems (fuel + 1) first (blanks ++ ']' :: rest) = ([], some rest) := by
  rw [readItems, skipBlanks_blanks_append_cons hblanks rfl]
  rfl

private theorem readItems_first {fuel : Nat} (hblanks : ∀ c ∈ blanks, isJsonBlank c = true)
    (hcs : StartsValue cs) : readItems (fuel + 1) true (blanks ++ cs) = readItem fuel cs := by
  obtain ⟨c, cs, rfl, hblank, hend⟩ := hcs
  rw [readItems, skipBlanks_blanks_append_cons hblanks hblank]
  split
  · next h => cases h
  · next h => exact absurd (List.cons.inj h).1 hend
  · next h =>
    rw [← h]
    rfl

private theorem readItems_next {fuel : Nat} (hblanks : ∀ c ∈ blanks, isJsonBlank c = true)
    (hcs : StartsValue cs) :
    readItems (fuel + 1) false (',' :: (blanks ++ cs)) = readItem fuel cs := by
  obtain ⟨c, cs, rfl, hblank, hend⟩ := hcs
  simp [readItems, skipBlanks_cons (show isJsonBlank ',' = false from rfl),
    skipBlanks_blanks_append_cons hblanks hblank, hend]

private theorem readItem_of_readValue {fuel : Nat} {item : Json}
    (h : readValue fuel cs = (item, some rest)) :
    readItem (fuel + 1) cs = (readItems fuel false rest).map (item :: ·) id := by
  rw [readItem, h]

private theorem readMembers_end {fuel : Nat} {first : Bool}
    (hblanks : ∀ c ∈ blanks, isJsonBlank c = true) :
    readMembers (fuel + 1) first (blanks ++ '}' :: rest) = ([], some rest) := by
  rw [readMembers, skipBlanks_blanks_append_cons hblanks rfl]
  rfl

private theorem readMembers_first {fuel : Nat} (hblanks : ∀ c ∈ blanks, isJsonBlank c = true) :
    readMembers (fuel + 1) true (blanks ++ '"' :: cs) = readMember fuel cs := by
  rw [readMembers, skipBlanks_blanks_append_cons hblanks rfl]
  rfl

private theorem readMembers_next {fuel : Nat} (hblanks : ∀ c ∈ blanks, isJsonBlank c = true) :
    readMembers (fuel + 1) false (',' :: (blanks ++ '"' :: cs)) = readMember fuel cs := by
  simp [readMembers, skipBlanks_cons (show isJsonBlank ',' = false from rfl),
    skipBlanks_blanks_append_cons hblanks (show isJsonBlank '"' = false from rfl)]

private theorem readMember_of_readString {fuel : Nat} {name : String}
    (h : readString cs = (.ok name, some rest)) :
    readMember (fuel + 1) cs = readPayload fuel name rest := by
  rw [readMember, h]

private theorem readPayload_of_readValue {fuel : Nat} {name : String} {value : Json}
    (h : readValue fuel cs = (value, some rest)) :
    readPayload (fuel + 1) name (':' :: cs) =
      (readMembers fuel false rest).map ((name, value) :: ·) id := by
  rw [readPayload, skipBlanks_cons rfl]
  simp only [h]

/-! ## Reading back -/

/-- Reading what was written of a document in a layout gives the document and what stands behind
it. -/
private def ReadsBack (style : Style) (j : Json) : Prop :=
  ∀ fuel depth rest, EndsValue rest → 3 * (j.write style depth).length ≤ fuel →
    readValue fuel (j.write style depth ++ rest) = (j, some rest)

private theorem IsPlain.startsValue {j : Json} (h : j.IsPlain) (style : Style) (depth : Nat) :
    StartsValue (j.write style depth) := by
  have hdigits : ∀ n, StartsValue (Nat.toDigits 10 n) := by
    intro n
    obtain ⟨c, cs, hcs, hc⟩ := Text.exists_digit_cons n
    refine ⟨c, cs, hcs, isJsonBlank_of_isDigit hc, ?_⟩
    rintro rfl
    exact absurd hc (by decide)
  cases h with
  | natural _ => exact hdigits _
  | bool b => cases b <;> exact ⟨_, _, rfl, rfl, by decide⟩
  | @array items _ => cases items <;> exact ⟨_, _, rfl, rfl, by decide⟩
  | @object members _ =>
    rcases members with _ | ⟨⟨key, value⟩, members⟩ <;> exact ⟨_, _, rfl, rfl, by decide⟩
  | _ => exact ⟨_, _, rfl, rfl, by decide⟩

section Parts

variable {style : Style} {depth fuel : Nat}

/-- The items behind the first one, up to the bracket. -/
private def itemsTail (style : Style) (depth : Nat) (items : List Json) : List Char :=
  writeItems style (depth + 1) items ++ style.lineBreak depth ++ [']']

/-- The members behind the first one, up to the brace. -/
private def membersTail (style : Style) (depth : Nat) (members : List (String × Json)) :
    List Char :=
  writeMembers style (depth + 1) members ++ style.lineBreak depth ++ ['}']

private theorem itemsTail_cons (item : Json) (items : List Json) :
    itemsTail style depth (item :: items) =
      ',' :: (style.lineBreak (depth + 1) ++
        (item.write style (depth + 1) ++ itemsTail style depth items)) := by
  simp [itemsTail, writeItems]

private theorem membersTail_cons (key : String) (value : Json) (members : List (String × Json)) :
    membersTail style depth ((key, value) :: members) =
      ',' :: (style.lineBreak (depth + 1) ++ (writeString key ++ ':' :: (style.afterColon ++
        (value.write style (depth + 1) ++ membersTail style depth members)))) := by
  simp [membersTail, writeMembers]

private theorem endsValue_itemsTail (hstyle : style.IsBlank) (items : List Json)
    (rest : List Char) : EndsValue (itemsTail style depth items ++ rest) := by
  cases items with
  | nil =>
    rw [itemsTail, writeItems, List.nil_append, List.append_assoc]
    exact .blanks_append (hstyle.lineBreak depth) (.cons (by simp))
  | cons item items =>
    rw [itemsTail_cons, List.cons_append]
    exact .cons (by simp)

private theorem endsValue_membersTail (hstyle : style.IsBlank) (members : List (String × Json))
    (rest : List Char) : EndsValue (membersTail style depth members ++ rest) := by
  cases members with
  | nil =>
    rw [membersTail, writeMembers, List.nil_append, List.append_assoc]
    exact .blanks_append (hstyle.lineBreak depth) (.cons (by simp))
  | cons m members =>
    rw [membersTail_cons, List.cons_append]
    exact .cons (by simp)

private theorem readItem_write (hstyle : style.IsBlank) {item : Json} {items : List Json}
    (hitem : ReadsBack style item)
    (hfuel : 3 * (item.write style (depth + 1) ++ itemsTail style depth items).length ≤ fuel)
    (htail : ∀ fuel, 3 * (itemsTail style depth items).length ≤ fuel →
      readItems fuel false (itemsTail style depth items ++ rest) = (items, some rest)) :
    readItem (fuel + 1) (item.write style (depth + 1) ++ (itemsTail style depth items ++ rest)) =
      (item :: items, some rest) := by
  rw [List.length_append] at hfuel
  have hread := hitem fuel (depth + 1) (itemsTail style depth items ++ rest)
    (endsValue_itemsTail hstyle items rest) (by omega)
  rw [readItem_of_readValue hread, htail fuel (by omega)]
  rfl

private theorem readItems_itemsTail (hstyle : style.IsBlank) {items : List Json}
    (hitems : ∀ item ∈ items, item.IsPlain ∧ ReadsBack style item)
    (hfuel : 3 * (itemsTail style depth items).length ≤ fuel) :
    readItems fuel false (itemsTail style depth items ++ rest) = (items, some rest) := by
  induction items generalizing fuel with
  | nil =>
    rw [itemsTail, writeItems, List.nil_append] at hfuel ⊢
    obtain ⟨fuel, rfl⟩ : ∃ f, fuel = f + 1 := Nat.exists_eq_add_of_le' (by simp at hfuel; omega)
    rw [List.append_assoc]
    exact readItems_end (hstyle.lineBreak depth)
  | cons item items ih =>
    obtain ⟨hplain, hitem⟩ := hitems item List.mem_cons_self
    rw [itemsTail_cons] at hfuel ⊢
    rw [List.length_cons, List.length_append] at hfuel
    -- One call for the comma and one for the item.
    obtain ⟨fuel, rfl⟩ : ∃ f, fuel = f + 2 := Nat.exists_eq_add_of_le' (by omega)
    rw [List.cons_append, List.append_assoc, List.append_assoc,
      readItems_next (hstyle.lineBreak _) ((hplain.startsValue style _).append _)]
    refine readItem_write hstyle hitem (by omega) fun fuel hfuel ↦ ?_
    exact ih (fun i hi ↦ hitems i (List.mem_cons_of_mem item hi)) hfuel

private theorem readMember_write (hstyle : style.IsBlank) {key : String} {value : Json}
    {members : List (String × Json)} (hvalue : ReadsBack style value)
    (hfuel : 3 * (value.write style (depth + 1) ++ membersTail style depth members).length ≤ fuel)
    (htail : ∀ fuel, 3 * (membersTail style depth members).length ≤ fuel →
      readMembers fuel false (membersTail style depth members ++ rest) = (members, some rest))
    (hkey : readString cs = (.ok key, some (':' :: (style.afterColon ++
      (value.write style (depth + 1) ++ (membersTail style depth members ++ rest)))))) :
    readMember (fuel + 2) cs = ((key, value) :: members, some rest) := by
  rw [List.length_append] at hfuel
  -- The space behind the colon is skipped with the value.
  have hread := hvalue fuel (depth + 1) (membersTail style depth members ++ rest)
    (endsValue_membersTail hstyle members rest) (by omega)
  rw [← readValue_blanks_append hstyle.afterColon] at hread
  rw [readMember_of_readString hkey, readPayload_of_readValue hread, htail fuel (by omega)]
  rfl

private theorem readMembers_membersTail (hstyle : style.IsBlank) {members : List (String × Json)}
    (hmembers : ∀ m ∈ members, ReadsBack style m.2)
    (hfuel : 3 * (membersTail style depth members).length ≤ fuel) :
    readMembers fuel false (membersTail style depth members ++ rest) = (members, some rest) := by
  induction members generalizing fuel with
  | nil =>
    rw [membersTail, writeMembers, List.nil_append] at hfuel ⊢
    obtain ⟨fuel, rfl⟩ : ∃ f, fuel = f + 1 := Nat.exists_eq_add_of_le' (by simp at hfuel; omega)
    rw [List.append_assoc]
    exact readMembers_end (hstyle.lineBreak depth)
  | cons m members ih =>
    obtain ⟨key, value⟩ := m
    rw [membersTail_cons] at hfuel ⊢
    simp only [List.length_cons, List.length_append] at hfuel
    -- One call for the comma, one for the key and one for the colon.
    obtain ⟨fuel, rfl⟩ : ∃ f, fuel = f + 3 := Nat.exists_eq_add_of_le' (by omega)
    simp only [List.cons_append, List.append_assoc]
    obtain ⟨cs, hcs, hkey⟩ := readString_writeString key (':' :: (style.afterColon ++
      (value.write style (depth + 1) ++ (membersTail style depth members ++ rest))))
    rw [hcs, readMembers_next (hstyle.lineBreak _)]
    refine readMember_write hstyle (hmembers _ List.mem_cons_self)
      (by rw [List.length_append]; omega) (fun fuel hfuel ↦ ?_) hkey
    exact ih (fun m hm ↦ hmembers m (List.mem_cons_of_mem _ hm)) hfuel

end Parts

/-! ### One case for every form of document -/

section Forms

variable {style : Style}

/-- A document has at least one character, so there is fuel for the calls before it is read. -/
theorem IsPlain.exists_fuel {j : Json} (h : j.IsPlain) {depth fuel : Nat}
    (hfuel : 3 * (j.write style depth).length ≤ fuel) : ∃ f, fuel = f + 3 := by
  obtain ⟨c, cs, hcs, -⟩ := h.startsValue style depth
  rw [hcs, List.length_cons] at hfuel
  exact Nat.exists_eq_add_of_le' (by omega)

private theorem readsBack_natural {n : Nat} (h : n ≤ maxSignificand) :
    ReadsBack style (.number (.natural n)) := by
  intro fuel depth rest hrest hfuel
  obtain ⟨fuel, rfl⟩ := (IsPlain.natural h).exists_fuel hfuel
  obtain ⟨c, cs, hcs, hc⟩ := Text.exists_digit_cons n
  rw [write, Numeral.write, hcs, List.cons_append, readValue_digit hc, ← List.cons_append, ← hcs,
    readNumber_toDigits_append false h hrest]
  rfl

private theorem readsBack_negative {n : Nat} (hpos : 0 < n) (h : n ≤ Nat.pow 2 63) :
    ReadsBack style (.number (.negative n)) := by
  intro fuel depth rest hrest hfuel
  obtain ⟨fuel, rfl⟩ := (IsPlain.negative hpos h).exists_fuel hfuel
  have hle : n ≤ maxSignificand := Nat.le_trans h (by decide)
  have hsmall : ¬(n = 0 ∨ Nat.pow 2 63 < n) := by omega
  rw [write, Numeral.write, List.cons_append, readValue_minus,
    readNumber_toDigits_append true hle hrest, integerNumeral]
  simp [hsmall, numberLeaf]

private theorem readsBack_string (s : String) : ReadsBack style (.string s) := by
  intro fuel depth rest _ hfuel
  obtain ⟨fuel, rfl⟩ := (IsPlain.string s).exists_fuel hfuel
  obtain ⟨cs, hcs, hread⟩ := readString_writeString s rest
  rw [write, hcs, readValue_quote hread]

private theorem readsBack_array (hstyle : style.IsBlank) {items : List Json}
    (h : ∀ item ∈ items, item.IsPlain ∧ ReadsBack style item) : ReadsBack style (.array items) := by
  intro fuel depth rest _ hfuel
  obtain ⟨fuel, rfl⟩ := (IsPlain.array fun i hi ↦ (h i hi).1).exists_fuel hfuel
  cases items with
  | nil => rfl
  | cons item items =>
    obtain ⟨⟨hplain, hread⟩, hitems⟩ := List.forall_mem_cons.mp h
    have hwrite : (Json.array (item :: items)).write style depth =
        '[' :: (style.lineBreak (depth + 1) ++
          (item.write style (depth + 1) ++ itemsTail style depth items)) := by
      simp [write, itemsTail]
    rw [hwrite, List.length_cons, List.length_append] at hfuel
    rw [hwrite, List.cons_append, List.append_assoc, List.append_assoc, readValue_bracket,
      readItems_first (hstyle.lineBreak _) ((hplain.startsValue style _).append _),
      readItem_write hstyle hread (by omega) fun _ ↦ readItems_itemsTail hstyle hitems]
    rfl

private theorem readsBack_object (hstyle : style.IsBlank) {members : List (String × Json)}
    (h : ∀ m ∈ members, m.2.IsPlain ∧ ReadsBack style m.2) :
    ReadsBack style (.object members) := by
  intro fuel depth rest _ hfuel
  obtain ⟨fuel, rfl⟩ := (IsPlain.object fun m hm ↦ (h m hm).1).exists_fuel hfuel
  rcases members with _ | ⟨⟨key, value⟩, members⟩
  · rfl
  · obtain ⟨hfirst, hmembers⟩ := List.forall_mem_cons.mp h
    have hread : ReadsBack style value := hfirst.2
    have hwrite : (Json.object ((key, value) :: members)).write style depth =
        '{' :: (style.lineBreak (depth + 1) ++ (writeString key ++ ':' :: (style.afterColon ++
          (value.write style (depth + 1) ++ membersTail style depth members)))) := by
      simp [write, membersTail]
    rw [hwrite] at hfuel
    simp only [List.length_cons, List.length_append] at hfuel
    obtain ⟨fuel, rfl⟩ : ∃ f, fuel = f + 1 := Nat.exists_eq_add_of_le' (by omega)
    obtain ⟨cs, hcs, hkey⟩ := readString_writeString key (':' :: (style.afterColon ++
      (value.write style (depth + 1) ++ (membersTail style depth members ++ rest))))
    rw [hwrite]
    simp only [List.cons_append, List.append_assoc]
    rw [readValue_brace, hcs, readMembers_first (hstyle.lineBreak _),
      readMember_write hstyle hread (by rw [List.length_append]; omega)
        (fun _ ↦ readMembers_membersTail hstyle fun m hm ↦ (hmembers m hm).2) hkey]
    rfl

end Forms

/-- **Documents are read back.** What was written of a plain document in a layout of blanks is read
as that document, up to where it ends. -/
private theorem IsPlain.readsBack {style : Style} (hstyle : style.IsBlank) {j : Json}
    (h : j.IsPlain) : ReadsBack style j := by
  -- The bound on the fuel is part of the statement, as parts of a document are read with less.
  induction h with
  | null =>
    intro fuel depth rest _ hfuel
    obtain ⟨fuel, rfl⟩ := IsPlain.null.exists_fuel hfuel
    rfl
  | bool b =>
    intro fuel depth rest _ hfuel
    obtain ⟨fuel, rfl⟩ := (IsPlain.bool b).exists_fuel hfuel
    cases b <;> rfl
  | natural h => exact readsBack_natural h
  | negative hpos h => exact readsBack_negative hpos h
  | string s => exact readsBack_string s
  | array h ih => exact readsBack_array hstyle fun i hi ↦ ⟨h i hi, ih i hi⟩
  | object h ih => exact readsBack_object hstyle fun m hm ↦ ⟨h m hm, ih m hm⟩

/-- A plain document that was written in a layout of blanks is read back, with nothing behind it. -/
theorem IsPlain.parse_write {style : Style} (hstyle : style.IsBlank) {j : Json} (h : j.IsPlain) :
    parse (String.ofList (j.write style 0)) = ⟨j, none⟩ := by
  have hend : EndsValue [] := fun c hc ↦ absurd hc (by simp)
  have hread := h.readsBack hstyle (4 * (j.write style 0).length + 4) 0 [] hend (by omega)
  rw [List.append_nil] at hread
  rw [parse, String.toList_ofList]
  simp only [hread]
  rfl

end FlowRouting.Json
