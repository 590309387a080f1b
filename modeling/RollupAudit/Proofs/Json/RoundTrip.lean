import RollupAudit.Proofs.Json.Entries
import RollupAudit.Proofs.Json.Numbers
import RollupAudit.Proofs.Json.Strings

/-!
# Reading back what is written in JSON

A value reads back from its text in every layout, whatever text follows, if its integers are not too
long, no object has a key twice, and no two halves in a text or a key make a surrogate pair. The reader
has enough fuel because each step of it takes at least one character.

**Results.**
* `readValue_render`: a value at the start of a text is read, and what follows it is left.
* `read_writeAsIs`: a whole text is read as the value that it was written for.
-/

namespace RollupAudit

namespace Json

open Text

mutual

/-- That a value reads back from its text: its integers are not too long, no object has a key twice, and
no two halves in a text or a key make a surrogate pair. -/
def IsReadable : Json → Prop
  | .int n => Text.isWritable n = true
  | .text s => isWhole s = true
  | .array items => ItemsReadable items
  | .object members => (members.map Prod.fst).Nodup ∧ MembersReadable members
  | _ => True

/-- That the items of an array read back. -/
def ItemsReadable : List Json → Prop
  | [] => True
  | v :: vs => IsReadable v ∧ ItemsReadable vs

/-- That the keys and the values of the members of an object read back. -/
def MembersReadable : List (String × Json) → Prop
  | [] => True
  | (key, v) :: ms => (isWhole key = true ∧ IsReadable v) ∧ MembersReadable ms

end

/-- A text of blanks. -/
def IsBlanks (cs : List Char) : Prop := ∀ c ∈ cs, isSpace c = true

theorem skipSpace_append
    {blanks cs : List Char}
    (h : IsBlanks blanks) :
    skipSpace (blanks ++ cs) = skipSpace cs :=
  List.dropWhile_append_of_pos h

theorem skipSpace_cons
    {c : Char} {cs : List Char}
    (h : isSpace c = false) :
    skipSpace (c :: cs) = c :: cs := by
  simp [skipSpace, h]

/-- A layout whose separators are a comma and a colon with blanks after them. -/
structure Layout.IsRegular (layout : Layout) : Prop where
  itemSeparator_eq : ∃ blanks, IsBlanks blanks ∧ layout.itemSeparator.toList = ',' :: blanks
  keySeparator_eq : ∃ blanks, IsBlanks blanks ∧ layout.keySeparator.toList = ':' :: blanks

theorem Layout.isRegular_lines
    (indent : Nat) :
    (Layout.lines indent).IsRegular :=
  ⟨⟨[], by simp [IsBlanks], by simp [lines]⟩, ⟨[' '], by simp [IsBlanks, isSpace], by simp [lines]⟩⟩

theorem Layout.isRegular_compact : Layout.compact.IsRegular :=
  ⟨⟨[], by simp [IsBlanks], by simp [compact]⟩, ⟨[], by simp [IsBlanks], by simp [compact]⟩⟩

/-- The start of a line consists of blanks. -/
theorem isBlanks_newline
    (layout : Layout)
    (level : Nat) :
    IsBlanks (layout.newline level) := by
  intro c hc
  unfold Layout.newline at hc
  split at hc
  · cases hc
  · rcases List.mem_cons.mp hc with rfl | hmem
    · rfl
    · rw [List.eq_of_mem_replicate hmem]
      rfl

/-- The text from an item on to the end of its value, the item left out. -/
def restText (layout : Layout) (level : Nat) (close : Char) (items : List (List Char)) : List Char :=
  items.flatMap (fun item => layout.itemSeparator.toList ++ layout.newline (level + 1) ++ item) ++
    layout.newline level ++ [close]

/-- The text from the first of some items on to the end of their value. -/
def itemsText (layout : Layout) (level : Nat) (close : Char) : List (List Char) → List Char
  | [] => restText layout level close []
  | item :: items => item ++ restText layout level close items

variable {layout : Layout}

theorem joined_eq
    {level : Nat} {open_ close : Char} {items : List (List Char)}
    (h : items ≠ []) :
    joined layout level open_ close items =
      open_ :: (layout.newline (level + 1) ++ itemsText layout level close items) := by
  obtain ⟨item, items, rfl⟩ := List.exists_cons_of_ne_nil h
  simp [joined, itemsText, restText]

/-- After an item comes a comma, and then the text from the next item on. -/
theorem restText_cons
    (hlayout : layout.IsRegular)
    (level : Nat)
    (close : Char)
    (item : List Char)
    (items : List (List Char)) :
    ∃ blanks, IsBlanks blanks ∧
      restText layout level close (item :: items) =
        ',' :: (blanks ++ itemsText layout level close (item :: items)) := by
  obtain ⟨blanks, hblanks, hseparator⟩ := hlayout.itemSeparator_eq
  refine ⟨blanks ++ layout.newline (level + 1), ?_, ?_⟩
  · intro c hc
    rcases List.mem_append.mp hc with hmem | hmem
    · exact hblanks c hmem
    · exact isBlanks_newline layout (level + 1) c hmem
  · simp [restText, itemsText, hseparator]

theorem skipSpace_restText_nil
    {level : Nat} {close : Char}
    (hclose : isSpace close = false)
    (rest : List Char) :
    skipSpace (restText layout level close [] ++ rest) = close :: rest := by
  have htext : restText layout level close [] ++ rest = layout.newline level ++ (close :: rest) := by
    simp [restText]
  rw [htext, skipSpace_append (isBlanks_newline layout level), skipSpace_cons hclose]

/-- What follows an item does not go on with a numeral. -/
theorem noNumericHead_restText
    (hlayout : layout.IsRegular)
    {level : Nat} {close : Char}
    (hclose : isNumeric close = false)
    (items : List (List Char))
    (rest : List Char) :
    NoNumericHead (restText layout level close items ++ rest) := by
  cases items with
  | nil =>
    unfold restText Layout.newline
    split
    · exact noNumericHead_cons hclose
    · exact noNumericHead_cons rfl
  | cons item items =>
    obtain ⟨blanks, -, htext⟩ := restText_cons hlayout level close item items
    rw [htext]
    exact noNumericHead_cons rfl

/-- A text that starts with a value: neither with a blank nor with a closing sign. -/
def StartsValue (cs : List Char) : Prop :=
  ∃ c rest, cs = c :: rest ∧ isSpace c = false ∧ c ≠ ']' ∧ c ≠ '\x7d'

theorem StartsValue.skipSpace_append
    {cs : List Char}
    (h : StartsValue cs)
    (rest : List Char) :
    skipSpace (cs ++ rest) = cs ++ rest := by
  obtain ⟨c, cs, rfl, hc, -⟩ := h
  exact skipSpace_cons hc

/-- A text that starts with a word or a number. -/
def StartsScalar (cs : List Char) : Prop :=
  StartsValue cs ∧ ∀ c ∈ cs.head?, c ≠ '"' ∧ c ≠ '[' ∧ c ≠ '\x7b'

/-- What starts with a character that may stand in a numeral starts with a number. -/
theorem startsScalar_of_isNumeric
    {c : Char} {cs : List Char}
    (h : isNumeric c = true) :
    StartsScalar (c :: cs) := by
  have hall : ∀ n < 128, isNumeric (Char.ofNat n) = true →
      (isSpace (Char.ofNat n) = false ∧ Char.ofNat n ≠ ']' ∧ Char.ofNat n ≠ '\x7d') ∧
        (Char.ofNat n ≠ '"' ∧ Char.ofNat n ≠ '[' ∧ Char.ofNat n ≠ '\x7b') := by
    decide
  have hc := hall c.toNat (toNat_lt_of_isNumeric h)
  rw [Char.ofNat_toNat] at hc
  refine ⟨⟨c, cs, rfl, (hc h).1⟩, fun c' hc' => ?_⟩
  cases hc'
  exact (hc h).2

/-- The text of an integer starts with a number. -/
theorem startsScalar_intText (n : Int) : StartsScalar (intText n).toList := by
  cases n with
  | ofNat n =>
    obtain ⟨d, ds, hds⟩ := List.exists_cons_of_ne_nil (@Nat.toDigits_ne_nil n 10)
    have hd : d ∈ Nat.toDigits 10 n := by
      rw [hds]
      exact List.mem_cons_self
    simp only [intText, String.toList_ofList, hds]
    exact startsScalar_of_isNumeric (isNumeric_of_isDigit (isDigit_of_mem_toDigits hd))
  | negSucc n =>
    simp only [intText, String.toList_ofList]
    exact startsScalar_of_isNumeric rfl

/-- What starts with a capital or small letter of a word starts with a word. -/
theorem startsScalar_of_mem
    {c : Char} {cs : List Char}
    (h : c ∈ ['n', 't', 'f', 'N', 'I']) :
    StartsScalar (c :: cs) := by
  have hletter : (isSpace c = false ∧ c ≠ ']' ∧ c ≠ '\x7d') ∧
      (c ≠ '"' ∧ c ≠ '[' ∧ c ≠ '\x7b') := by
    simp only [List.mem_cons, List.not_mem_nil, or_false] at h
    rcases h with rfl | rfl | rfl | rfl | rfl <;> decide
  refine ⟨⟨c, cs, rfl, hletter.1⟩, fun c' hc' => ?_⟩
  cases hc'
  exact hletter.2

/-- The text of a floating-point number starts with a word or a number. -/
theorem startsScalar_numberText
    (x : Binary64) :
    StartsScalar (numberText x) := by
  cases x with
  | nan => exact startsScalar_of_mem (by decide : 'N' ∈ _)
  | infinite negative =>
    cases negative with
    | false => exact startsScalar_of_mem (by decide : 'I' ∈ _)
    | true => exact startsScalar_of_isNumeric (rfl : isNumeric '-' = true)
  | finite negative rank =>
    obtain ⟨n, htext, -, -⟩ := Binary64.exists_numeral rank
    obtain ⟨c, cs, hcons, hc⟩ := n.exists_cons
    rw [numberText_finite htext, hcons]
    cases negative with
    | false => exact startsScalar_of_isNumeric (isNumeric_of_isDigit hc)
    | true => exact startsScalar_of_isNumeric rfl

/-- The text of a value starts a value. -/
theorem startsValue_render
    (layout : Layout)
    (level : Nat)
    (v : Json) :
    StartsValue (render layout level v) := by
  have hjoined (open_ close : Char) (items : List (List Char)) (hopen : isSpace open_ = false)
      (harray : open_ ≠ ']') (hobject : open_ ≠ '\x7d') :
      StartsValue (joined layout level open_ close items) := by
    cases items with
    | nil => exact ⟨open_, _, rfl, hopen, harray, hobject⟩
    | cons item items => exact ⟨open_, _, rfl, hopen, harray, hobject⟩
  cases v with
  | null => exact (startsScalar_of_mem (by decide : 'n' ∈ _)).1
  | bool b =>
    cases b with
    | false => exact (startsScalar_of_mem (by decide : 'f' ∈ _)).1
    | true => exact (startsScalar_of_mem (by decide : 't' ∈ _)).1
  | int n => exact (startsScalar_intText n).1
  | float x => exact (startsScalar_numberText x).1
  | text s => exact ⟨'"', _, rfl, rfl, by decide, by decide⟩
  | array items => exact hjoined '[' ']' _ rfl (by decide) (by decide)
  | object members => exact hjoined '\x7b' '\x7d' _ rfl (by decide) (by decide)

/-- What starts with a word or a number is read as one. -/
theorem readValue_scalar
    {cs : List Char}
    (hstart : StartsScalar cs)
    {fuel : Nat}
    (hfuel : cs.length ≤ fuel)
    (rest : List Char) :
    readValue fuel (cs ++ rest) = readScalar (cs ++ rest) := by
  obtain ⟨⟨c, cs, rfl, -⟩, hsign⟩ := hstart
  obtain ⟨htext, harray, hobject⟩ := hsign c rfl
  rw [List.length_cons] at hfuel
  obtain ⟨fuel, rfl⟩ : ∃ n, fuel = n + 1 := ⟨fuel - 1, by omega⟩
  rw [List.cons_append]
  unfold readValue
  split
  · rename_i heq
    exact absurd (List.cons.inj heq).1 htext
  · rename_i heq
    exact absurd (List.cons.inj heq).1 harray
  · rename_i heq
    exact absurd (List.cons.inj heq).1 hobject
  · rfl

/-- A quoted text is read as a text. -/
theorem readValue_quote
    {s : String}
    (hs : isWhole s = true)
    {fuel : Nat}
    (hfuel : (quote s).length ≤ fuel)
    (rest : List Char) :
    readValue fuel (quote s ++ rest) = .ok (.text s, rest) := by
  have htext : quote s ++ rest = '"' :: ((codePoints s.toList).flatMap escapedPoint ++ '"' :: rest) := by
    simp [quote]
  simp only [quote, List.length_cons, List.cons_append] at hfuel
  obtain ⟨fuel, rfl⟩ : ∃ n, fuel = n + 1 := ⟨fuel - 1, by omega⟩
  rw [htext]
  simp only [readValue, readText?_quote hs, String.ofList_toList]

theorem StartsValue.append
    {cs : List Char}
    (h : StartsValue cs)
    (rest : List Char) :
    StartsValue (cs ++ rest) := by
  obtain ⟨c, cs, rfl, hc⟩ := h
  exact ⟨c, cs ++ rest, rfl, hc⟩

section Steps

variable {fuel level : Nat} {cs after more rest blanks : List Char} {v : Json}

theorem skipSpace_blanks
    (hblanks : IsBlanks blanks)
    (hstart : StartsValue cs) :
    skipSpace (blanks ++ cs) = cs := by
  have hskip := hstart.skipSpace_append []
  rw [List.append_nil] at hskip
  rw [skipSpace_append hblanks, hskip]

/-- An array is read as the items that follow its opening sign. -/
theorem readValue_array
    (hblanks : IsBlanks blanks)
    (hstart : StartsValue cs)
    {vs : List Json}
    (h : readItems fuel cs = .ok (vs, rest)) :
    readValue (fuel + 1) ('[' :: (blanks ++ cs)) = .ok (.array vs, rest) := by
  have hskip := skipSpace_blanks hblanks hstart
  obtain ⟨c, cs, rfl, -, hclose, -⟩ := hstart
  simp only [readValue, hskip]
  split
  · rename_i heq
    exact absurd (List.cons.inj heq).1 hclose
  · rw [h]
    rfl

/-- An object is read as the members that follow its opening sign. -/
theorem readValue_object
    (hblanks : IsBlanks blanks)
    (hstart : StartsValue cs)
    {ms : List (String × Json)}
    (hkeys : (ms.map Prod.fst).Nodup)
    (h : readMembers fuel cs = .ok (ms, rest)) :
    readValue (fuel + 1) ('\x7b' :: (blanks ++ cs)) = .ok (.object ms, rest) := by
  have hskip := skipSpace_blanks hblanks hstart
  obtain ⟨c, cs, rfl, -, -, hclose⟩ := hstart
  simp only [readValue, hskip]
  split
  · rename_i heq
    exact absurd (List.cons.inj heq).1 hclose
  · rw [h]
    change Except.ok (Json.object (ofEntries ms), rest) = .ok (.object ms, rest)
    rw [ofEntries_eq_self hkeys]

theorem readItems_last (hv : readValue fuel cs = .ok (v, after))
    (hclose : skipSpace after = ']' :: rest) : readItems (fuel + 1) cs = .ok ([v], rest) := by
  simp only [readItems, hv, bind, Except.bind, hclose]
  rfl

theorem readItems_next
    (hv : readValue fuel cs = .ok (v, after))
    (hcomma : skipSpace after = ',' :: more)
    {vs : List Json}
    (hmore : readItems fuel (skipSpace more) = .ok (vs, rest)) :
    readItems (fuel + 1) cs = .ok (v :: vs, rest) := by
  simp only [readItems, hv, bind, Except.bind, hcomma, hmore]
  rfl

/-- The text of a member. -/
def memberText (layout : Layout) (level : Nat) (key : String) (v : Json) : List Char :=
  quote key ++ layout.keySeparator.toList ++ render layout level v

theorem startsValue_memberText
    (layout : Layout)
    (level : Nat)
    (key : String)
    (v : Json) :
    StartsValue (memberText layout level key v) :=
  ⟨'"', _, rfl, rfl, by decide, by decide⟩

theorem length_render_lt_memberText
    (layout : Layout)
    (level : Nat)
    (key : String)
    (v : Json) :
    (render layout level v).length < (memberText layout level key v).length := by
  simp only [memberText, quote, List.length_append, List.length_cons]
  omega

theorem memberText_append
    (hlayout : layout.IsRegular)
    (level : Nat)
    (key : String)
    (v : Json)
    (after : List Char) :
    ∃ blanks, IsBlanks blanks ∧ memberText layout level key v ++ after =
      '"' :: ((codePoints key.toList).flatMap escapedPoint ++
        '"' :: ':' :: (blanks ++ (render layout level v ++ after))) := by
  obtain ⟨blanks, hblanks, hseparator⟩ := hlayout.keySeparator_eq
  refine ⟨blanks, hblanks, ?_⟩
  simp [memberText, quote, hseparator]

/-- The last member of an object. -/
theorem readMembers_last
    (hlayout : layout.IsRegular)
    {key : String}
    (hkey : isWhole key = true)
    (hv : readValue fuel (render layout level v ++ after) = .ok (v, after))
    (hclose : skipSpace after = '\x7d' :: rest) :
    readMembers (fuel + 1) (memberText layout level key v ++ after) = .ok ([(key, v)], rest) := by
  obtain ⟨blanks, hblanks, htext⟩ := memberText_append hlayout level key v after
  have hskip := skipSpace_blanks hblanks ((startsValue_render layout level v).append after)
  have hcolon : skipSpace (':' :: (blanks ++ (render layout level v ++ after))) =
      ':' :: (blanks ++ (render layout level v ++ after)) := skipSpace_cons rfl
  rw [htext]
  simp only [readMembers, readText?_quote hkey, hcolon, hskip, hv, bind, Except.bind, hclose,
    String.ofList_toList]
  rfl

/-- A member of an object, and those after the comma. -/
theorem readMembers_next
    (hlayout : layout.IsRegular)
    {key : String}
    (hkey : isWhole key = true)
    (hv : readValue fuel (render layout level v ++ after) = .ok (v, after))
    (hcomma : skipSpace after = ',' :: more)
    {ms : List (String × Json)}
    (hmore : readMembers fuel (skipSpace more) = .ok (ms, rest)) :
    readMembers (fuel + 1) (memberText layout level key v ++ after) = .ok ((key, v) :: ms, rest) := by
  obtain ⟨blanks, hblanks, htext⟩ := memberText_append hlayout level key v after
  have hskip := skipSpace_blanks hblanks ((startsValue_render layout level v).append after)
  have hcolon : skipSpace (':' :: (blanks ++ (render layout level v ++ after))) =
      ':' :: (blanks ++ (render layout level v ++ after)) := skipSpace_cons rfl
  rw [htext]
  simp only [readMembers, readText?_quote hkey, hcolon, hskip, hv, bind, Except.bind, hcomma, hmore,
    String.ofList_toList]
  rfl

end Steps

theorem startsValue_itemsText
    {level : Nat} {close : Char} {item : List Char}
    (h : StartsValue item)
    (items : List (List Char)) :
    StartsValue (itemsText layout level close (item :: items)) :=
  h.append _

/-- After an item comes a comma, and after the comma and blanks the next item. -/
theorem skipSpace_restText_cons
    (hlayout : layout.IsRegular)
    (level : Nat)
    (close : Char)
    {item : List Char}
    (hitem : StartsValue item)
    (items : List (List Char))
    (rest : List Char) :
    ∃ more, skipSpace (restText layout level close (item :: items) ++ rest) = ',' :: more ∧
      skipSpace more = itemsText layout level close (item :: items) ++ rest := by
  obtain ⟨blanks, hblanks, htext⟩ := restText_cons hlayout level close item items
  refine ⟨blanks ++ (itemsText layout level close (item :: items) ++ rest), ?_, ?_⟩
  · rw [htext, List.cons_append, List.append_assoc]
    exact skipSpace_cons rfl
  · exact skipSpace_blanks hblanks ((startsValue_itemsText hitem items).append rest)

theorem length_lt_itemsText
    {level : Nat} {close : Char}
    (item : List Char)
    (items : List (List Char)) :
    item.length < (itemsText layout level close (item :: items)).length := by
  simp only [itemsText, restText, List.length_append, List.length_singleton]
  omega

/-- The text from an item on is shorter than the text from the item before it on. -/
theorem length_itemsText_lt
    (hlayout : layout.IsRegular)
    {level : Nat} {close : Char}
    (item item' : List Char)
    (items : List (List Char)) :
    (itemsText layout level close (item' :: items)).length <
      (itemsText layout level close (item :: item' :: items)).length := by
  obtain ⟨blanks, -, htext⟩ := restText_cons hlayout level close item' items
  have hlength : (itemsText layout level close (item :: item' :: items)).length =
      item.length + (restText layout level close (item' :: items)).length := List.length_append
  rw [htext, List.length_cons, List.length_append] at hlength
  omega

mutual

/-- A value at the start of a text is read, and what follows it is left. -/
theorem readValue_render
    (hlayout : layout.IsRegular) :
    ∀ (v : Json) (level fuel : Nat) (rest : List Char), IsReadable v → NoNumericHead rest →
      (render layout level v).length ≤ fuel →
        readValue fuel (render layout level v ++ rest) = .ok (v, rest)
  | .null, level, fuel, rest, _, _, hfuel =>
    readValue_scalar (startsScalar_of_mem (by decide : 'n' ∈ _)) hfuel rest
  | .bool false, level, fuel, rest, _, _, hfuel =>
    readValue_scalar (startsScalar_of_mem (by decide : 'f' ∈ _)) hfuel rest
  | .bool true, level, fuel, rest, _, _, hfuel =>
    readValue_scalar (startsScalar_of_mem (by decide : 't' ∈ _)) hfuel rest
  | .int n, level, fuel, rest, hv, hrest, hfuel =>
    (readValue_scalar (startsScalar_intText n) hfuel rest).trans (readScalar_int hv hrest)
  | .float x, level, fuel, rest, _, hrest, hfuel =>
    (readValue_scalar (startsScalar_numberText x) hfuel rest).trans (readScalar_float x hrest)
  | .text _, level, fuel, rest, hv, _, hfuel => readValue_quote hv hfuel rest
  | .array [], level, fuel, rest, _, _, hfuel => by
    simp only [render, renderItems, joined, List.length_cons] at hfuel
    obtain ⟨fuel, rfl⟩ : ∃ n, fuel = n + 1 := ⟨fuel - 1, by omega⟩
    rfl
  | .array (v :: vs), level, fuel, rest, hv, _, hfuel => by
    have hne : renderItems layout (level + 1) (v :: vs) ≠ [] := by simp [renderItems]
    have htext : render layout level (.array (v :: vs)) =
        '[' :: (layout.newline (level + 1) ++
          itemsText layout level ']' (renderItems layout (level + 1) (v :: vs))) := by
      rw [render, joined_eq hne]
    rw [htext] at hfuel ⊢
    rw [List.length_cons, List.length_append] at hfuel
    obtain ⟨fuel, rfl⟩ : ∃ n, fuel = n + 1 := ⟨fuel - 1, by omega⟩
    have ih := readItems_render hlayout (v :: vs) level fuel rest (by simp) hv (by omega)
    have hstart : StartsValue (itemsText layout level ']' (renderItems layout (level + 1) (v :: vs))) :=
      startsValue_itemsText (startsValue_render layout (level + 1) v) _
    have hread := readValue_array (isBlanks_newline layout (level + 1)) (hstart.append rest) ih
    rw [← List.append_assoc] at hread
    exact hread
  | .object [], level, fuel, rest, _, _, hfuel => by
    simp only [render, renderMembers, joined, List.length_cons] at hfuel
    obtain ⟨fuel, rfl⟩ : ∃ n, fuel = n + 1 := ⟨fuel - 1, by omega⟩
    rfl
  | .object ((key, v) :: ms), level, fuel, rest, hv, _, hfuel => by
    have hne : renderMembers layout (level + 1) ((key, v) :: ms) ≠ [] := by simp [renderMembers]
    have htext : render layout level (.object ((key, v) :: ms)) =
        '\x7b' :: (layout.newline (level + 1) ++
          itemsText layout level '\x7d' (renderMembers layout (level + 1) ((key, v) :: ms))) := by
      rw [render, joined_eq hne]
    rw [htext] at hfuel ⊢
    rw [List.length_cons, List.length_append] at hfuel
    obtain ⟨fuel, rfl⟩ : ∃ n, fuel = n + 1 := ⟨fuel - 1, by omega⟩
    have ih := readMembers_render hlayout ((key, v) :: ms) level fuel rest (by simp) hv.2 (by omega)
    have hstart :
        StartsValue (itemsText layout level '\x7d' (renderMembers layout (level + 1) ((key, v) :: ms))) :=
      startsValue_itemsText (startsValue_memberText layout (level + 1) key v) _
    have hread := readValue_object (isBlanks_newline layout (level + 1)) (hstart.append rest) hv.1 ih
    rw [← List.append_assoc] at hread
    exact hread

theorem readItems_render
    (hlayout : layout.IsRegular) :
    ∀ (vs : List Json) (level fuel : Nat) (rest : List Char), vs ≠ [] → ItemsReadable vs →
      (itemsText layout level ']' (renderItems layout (level + 1) vs)).length ≤ fuel →
        readItems fuel (itemsText layout level ']' (renderItems layout (level + 1) vs) ++ rest) =
          .ok (vs, rest)
  | [], _, _, _, hne, _, _ => absurd rfl hne
  | [v], level, fuel, rest, _, hvs, hfuel => by
    have hlength : (render layout (level + 1) v).length <
        (itemsText layout level ']' [render layout (level + 1) v]).length := length_lt_itemsText _ _
    simp only [renderItems] at hfuel ⊢
    obtain ⟨fuel, rfl⟩ : ∃ n, fuel = n + 1 := ⟨fuel - 1, by omega⟩
    have ih := readValue_render hlayout v (level + 1) fuel (restText layout level ']' [] ++ rest)
      hvs.1 (noNumericHead_restText hlayout rfl [] rest) (by omega)
    rw [itemsText, List.append_assoc]
    exact readItems_last ih (skipSpace_restText_nil rfl rest)
  | v :: v' :: vs, level, fuel, rest, _, hvs, hfuel => by
    let items := renderItems layout (level + 1) (v' :: vs)
    have hfirst : (render layout (level + 1) v).length <
        (itemsText layout level ']' (render layout (level + 1) v :: items)).length :=
      length_lt_itemsText _ _
    have hmore : (itemsText layout level ']' items).length <
        (itemsText layout level ']' (render layout (level + 1) v :: items)).length :=
      length_itemsText_lt hlayout _ _ _
    change (itemsText layout level ']' (render layout (level + 1) v :: items)).length ≤ fuel at hfuel
    obtain ⟨fuel, rfl⟩ : ∃ n, fuel = n + 1 := ⟨fuel - 1, by omega⟩
    have ih := readValue_render hlayout v (level + 1) fuel (restText layout level ']' items ++ rest)
      hvs.1 (noNumericHead_restText hlayout rfl items rest) (by omega)
    have ihmore := readItems_render hlayout (v' :: vs) level fuel rest (by simp) hvs.2
      (show (itemsText layout level ']' items).length ≤ fuel by omega)
    obtain ⟨more, hcomma, hskip⟩ := skipSpace_restText_cons hlayout level ']'
      (startsValue_render layout (level + 1) v') (renderItems layout (level + 1) vs) rest
    change readItems (fuel + 1) (render layout (level + 1) v ++ restText layout level ']' items ++ rest) =
      _
    rw [List.append_assoc]
    exact readItems_next ih hcomma (by rw [hskip]; exact ihmore)

theorem readMembers_render
    (hlayout : layout.IsRegular) :
    ∀ (ms : List (String × Json)) (level fuel : Nat) (rest : List Char), ms ≠ [] →
      MembersReadable ms →
      (itemsText layout level '\x7d' (renderMembers layout (level + 1) ms)).length ≤ fuel →
        readMembers fuel (itemsText layout level '\x7d' (renderMembers layout (level + 1) ms) ++ rest) =
          .ok (ms, rest)
  | [], _, _, _, hne, _, _ => absurd rfl hne
  | [(key, v)], level, fuel, rest, _, hvs, hfuel => by
    have hmember : (memberText layout (level + 1) key v).length <
        (itemsText layout level '\x7d' [memberText layout (level + 1) key v]).length :=
      length_lt_itemsText _ _
    have hvalue := length_render_lt_memberText layout (level + 1) key v
    change (itemsText layout level '\x7d' [memberText layout (level + 1) key v]).length ≤ fuel at hfuel
    obtain ⟨fuel, rfl⟩ : ∃ n, fuel = n + 1 := ⟨fuel - 1, by omega⟩
    have ih := readValue_render hlayout v (level + 1) fuel (restText layout level '\x7d' [] ++ rest)
      hvs.1.2 (noNumericHead_restText hlayout rfl [] rest) (by omega)
    change readMembers (fuel + 1)
      (memberText layout (level + 1) key v ++ restText layout level '\x7d' [] ++ rest) = _
    rw [List.append_assoc]
    exact readMembers_last hlayout hvs.1.1 ih (skipSpace_restText_nil rfl rest)
  | (key, v) :: (key', v') :: ms, level, fuel, rest, _, hvs, hfuel => by
    let items := renderMembers layout (level + 1) ((key', v') :: ms)
    have hmember : (memberText layout (level + 1) key v).length <
        (itemsText layout level '\x7d' (memberText layout (level + 1) key v :: items)).length :=
      length_lt_itemsText _ _
    have hvalue := length_render_lt_memberText layout (level + 1) key v
    have hmore : (itemsText layout level '\x7d' items).length <
        (itemsText layout level '\x7d' (memberText layout (level + 1) key v :: items)).length :=
      length_itemsText_lt hlayout _ _ _
    change (itemsText layout level '\x7d' (memberText layout (level + 1) key v :: items)).length ≤ fuel
      at hfuel
    obtain ⟨fuel, rfl⟩ : ∃ n, fuel = n + 1 := ⟨fuel - 1, by omega⟩
    have ih := readValue_render hlayout v (level + 1) fuel (restText layout level '\x7d' items ++ rest)
      hvs.1.2 (noNumericHead_restText hlayout rfl items rest) (by omega)
    have ihmore := readMembers_render hlayout ((key', v') :: ms) level fuel rest (by simp) hvs.2
      (show (itemsText layout level '\x7d' items).length ≤ fuel by omega)
    obtain ⟨more, hcomma, hskip⟩ := skipSpace_restText_cons hlayout level '\x7d'
      (startsValue_memberText layout (level + 1) key' v') (renderMembers layout (level + 1) ms) rest
    change readMembers (fuel + 1)
      (memberText layout (level + 1) key v ++ restText layout level '\x7d' items ++ rest) = _
    rw [List.append_assoc]
    exact readMembers_next hlayout hvs.1.1 ih hcomma (by rw [hskip]; exact ihmore)

end

/-- A whole text is read as the value that it was written for. -/
theorem read_writeAsIs
    (hlayout : layout.IsRegular)
    {v : Json}
    (hv : v.IsReadable) :
    read (v.writeAsIs layout) = .ok v := by
  have hstart := startsValue_render layout 0 v
  have hskip := hstart.skipSpace_append []
  have hread := readValue_render hlayout v 0 ((render layout 0 v).length + 1) [] hv
    (fun _ h => nomatch h) (by omega)
  rw [List.append_nil] at hskip hread
  simp only [read, writeAsIs, String.toList_ofList, hskip, hread, bind, Except.bind]
  rfl

end Json
end RollupAudit
