import Mathlib
import ModuleScope.CommandLine.Run
import ModuleScope.Proofs.LineEnds

/-!
The word that a hover card is named by and the word that is asked for. A card is named from a reading of
the file in which every line end is a line feed, while the analyzer keeps the characters of the file. The
two agree at every cursor exactly if no word comes after a carriage return that stands alone.
-/
namespace ModuleScope

open TypeScript Text Utf8

namespace Text

def TouchesAfter (left word : List Char) (position : Position) : Prop :=
  position.line = left.count '\n' ∧ columnAfter left ≤ position.character ∧
    position.character ≤ columnAfter left + word.length

theorem touchesAfter_normalizeNewlines {left word : List Char} {position : Position}
    (joined : loneReturns left = 0) :
    TouchesAfter (normalizeNewlines left) word position ↔ TouchesAfter left word position := by
  rw [TouchesAfter, count_normalizeNewlines, columnAfter_normalizeNewlines joined, joined, Nat.add_zero,
    TouchesAfter]

end Text

namespace Document

variable {document : Document} {position : Position} {name : String}

theorem rangeOf_encode {left word right : List Char} (parts : document.text.toList = left ++ word ++ right)
    (single : '\n' ∉ word) :
    document.rangeOf (encode left).length ((encode left).length + (encode word).length : Nat) =
      ⟨⟨left.count '\n', columnAfter left⟩, ⟨left.count '\n', columnAfter left + word.length⟩⟩ := by
  have first := positionAt_encode (parts.trans (List.append_assoc ..))
  have last := positionAt_encode parts
  rw [encode_append, List.length_append, List.count_append, List.count_eq_zero_of_not_mem single,
    columnAfter_append single] at last
  rw [rangeOf, first, last]
  simp

theorem name_at_iff :
    (document.wordRangeAt position).map document.textOf = some name ↔
      ∃ left right, document.text.toList = left ++ name.toList ++ right ∧
        WordBetween left name.toList right ∧ TouchesAfter left name.toList position := by
  constructor
  · intro named
    obtain ⟨range, touched, rfl⟩ := Option.map_eq_some_iff.mp named
    obtain ⟨text, start, stop, on, rfl⟩ := exists_onWord touched
    obtain ⟨left, right, parts, stands, range⟩ := on.exists_between
    have spelled := (wordSpan_of_between parts stands).textOf_range
    have placed := rangeOf_encode parts (newline_not_mem stands.isWord)
    rw [range] at spelled placed
    rw [spelled, String.toList_ofList]
    simp only [Range.mk.injEq, Position.mk.injEq] at placed
    obtain ⟨⟨line, first⟩, _, last⟩ := placed
    exact ⟨left, right, parts, stands, line, first ▸ on.low, last ▸ on.high⟩
  · rintro ⟨left, right, parts, stands, line, low, high⟩
    have spans := wordSpan_of_between parts stands
    have range := rangeOf_encode parts (newline_not_mem stands.isWord)
    have touches : (document.rangeOf (encode left).length
        ((encode left).length + (encode name.toList).length : Nat)).touches position := by
      rw [range]
      exact ⟨Or.inr ⟨line.symm, low⟩, Or.inr ⟨line, high⟩⟩
    rw [spans.found position touches, Option.map_some, spans.textOf_range, String.ofList_toList]

theorem name_ne_empty (named : (document.wordRangeAt position).map document.textOf = some name) :
    name ≠ "" := by
  rintro rfl
  obtain ⟨left, right, _, stands, _⟩ := name_at_iff.mp named
  exact absurd stands.isWord (by decide)

theorem map_name_wordAt? (document : Document) (tree : Option Tree) (position : Position) :
    (document.wordAt? tree position).map CursorWord.name =
      (document.wordRangeAt position).map document.textOf := by
  cases touched : document.wordRangeAt position with
  | none => simp [wordAt?, touched]
  | some range =>
    have named : (document.wordRangeAt position).map document.textOf = some (document.textOf range) := by
      rw [touched, Option.map_some]
    have present := name_ne_empty named
    simp [wordAt?, touched, present, guard]

/-- In a reading with line feeds for line ends, the name at a position is a word of the text that stands
there when the line ends before it are line feeds. -/
theorem name_at_normalizeNewlines_iff {text : List Char}
    (characters : document.text.toList = normalizeNewlines text) :
    (document.wordRangeAt position).map document.textOf = some name ↔
      ∃ left right, text = left ++ name.toList ++ right ∧ WordBetween left name.toList right ∧
        TouchesAfter (normalizeNewlines left) name.toList position := by
  rw [name_at_iff, characters]
  constructor
  · rintro ⟨left, right, parts, stands, touches⟩
    obtain ⟨before, after, rfl, found, rfl⟩ := exists_between_of_normalizeNewlines parts stands
    exact ⟨before, after, rfl, found, touches⟩
  · rintro ⟨left, right, rfl, stands, touches⟩
    obtain ⟨parts, stands⟩ := stands.normalized
    exact ⟨_, _, parts, stands, touches⟩

/-- If two such readings give the same name at every cursor, every word is on the same line in both. -/
theorem exists_on_line_of_agree {reading : Document}
    (characters : reading.text.toList = normalizeNewlines document.text.toList)
    (agree : ∀ line column : Nat,
      ((reading.wordRangeAt ⟨line, column⟩).map reading.textOf).getD "" =
        ((document.wordRangeAt ⟨line, column⟩).map document.textOf).getD "")
    (left word right : List Char) (parts : document.text.toList = left ++ word ++ right)
    (stands : WordBetween left word right) :
    ∃ left' right', document.text.toList = left' ++ word ++ right' ∧ WordBetween left' word right' ∧
      left'.count '\n' = (normalizeNewlines left).count '\n' := by
  have touches : TouchesAfter (normalizeNewlines left) (String.ofList word).toList
      ⟨(normalizeNewlines left).count '\n', columnAfter (normalizeNewlines left)⟩ :=
    ⟨rfl, le_rfl, by simp⟩
  have read := (name_at_normalizeNewlines_iff characters).mpr
    ⟨left, right, by simpa using parts, by simpa using stands, touches⟩
  have asked := agree ((normalizeNewlines left).count '\n') (columnAfter (normalizeNewlines left))
  rw [read, Option.getD_some] at asked
  have named := Option.getD_eq_iff.mp asked.symm
  rcases named with named | ⟨_, empty⟩
  · obtain ⟨left', right', parts', stands', line, _⟩ := name_at_iff.mp named
    rw [String.toList_ofList] at parts' stands'
    exact ⟨left', right', parts', stands', Int.ofNat_inj.mp line.symm⟩
  · exact absurd empty.symm (name_ne_empty read)

end Document

namespace CommandLine

variable {files : FileSystem} {path : String} {document : Document}

theorem exists_reading (opened : files.openDocument path = .ok document) :
    ∃ reading : Document, reading.text.toList = normalizeNewlines document.text.toList ∧
      ∀ position, wordIn files path position =
        .ok (((reading.wordRangeAt position).map reading.textOf).getD "") := by
  rw [FileSystem.openDocument] at opened
  cases held : files.read path with
  | error failure => simp [held, bind, Except.bind] at opened
  | ok bytes =>
    cases decoded : decode bytes with
    | error fault => simp [held, decoded, bind, Except.bind] at opened
    | ok text =>
      obtain rfl : Document.ofText path (String.ofList text) = document := by
        simpa [held, decoded, bind, Except.bind, pure, Except.pure] using opened
      have characters : (Document.ofText path (String.ofList text)).text.toList = text :=
        String.toList_ofList
      refine ⟨Document.ofText path (String.ofList (normalizeNewlines text)), ?_, fun position => ?_⟩
      · rw [characters]
        exact String.toList_ofList
      · simp [wordIn, held, decoded, bind, Except.bind, pure, Except.pure]

/-- A card is named by the word that is asked for at every cursor in a file exactly if no word of the
file comes after a carriage return that stands alone. -/
theorem wordIn_agrees_iff (opened : files.openDocument path = .ok document) (tree : Option Tree) :
    (∀ line column : Nat, wordIn files path ⟨line, column⟩ =
      .ok (((document.wordAt? tree ⟨line, column⟩).map CursorWord.name).getD "")) ↔
    ∀ before after, document.text.toList = before ++ '\r' :: after → after.head? ≠ some '\n' →
      ∀ c ∈ after, isWordStart c = false := by
  obtain ⟨reading, characters, read⟩ := exists_reading opened
  simp only [read, Document.map_name_wordAt?, Except.ok.injEq]
  constructor
  · intro agree before after parts alone c member
    rw [Bool.eq_false_iff]
    intro starts
    obtain ⟨left, word, right, whole, stands, returned⟩ := exists_word_after_return alone member starts
    have joined := loneReturns_eq_zero_of_found (Document.exists_on_line_of_agree characters agree)
      (parts.trans whole) stands
    omega
  · intro last line column
    congr 1
    apply Option.ext
    intro name
    rw [Document.name_at_normalizeNewlines_iff characters, Document.name_at_iff]
    refine exists_congr fun left => exists_congr fun right => and_congr_right fun parts =>
      and_congr_right fun stands => ?_
    rw [parts] at last
    exact touchesAfter_normalizeNewlines (loneReturns_eq_zero_of_word last stands)

def holding (text : String) : FileSystem :=
  (FileSystem.empty ⟨1, ["w"]⟩).insert ⟨1, ["w", "a.ts"]⟩ (.file (encode text.toList))

theorem openDocument_holding {text : String}
    (held : (holding text).read "/w/a.ts" = .ok (encode text.toList))
    (decoded : decode (encode text.toList) = .ok text.toList) :
    (holding text).openDocument "/w/a.ts" = .ok (Document.ofText "/w/a.ts" text) := by
  simp [FileSystem.openDocument, held, decoded, bind, Except.bind, pure, Except.pure]

/-- The only carriage return that stands alone ends the file. -/
theorem wordIn_agrees_returnEnded :
    (holding "ab;\r\ncd\r").openDocument "/w/a.ts" =
        .ok (Document.ofText "/w/a.ts" "ab;\r\ncd\r") ∧
      ∀ line column : Nat, wordIn (holding "ab;\r\ncd\r") "/w/a.ts" ⟨line, column⟩ =
        .ok ((((Document.ofText "/w/a.ts" "ab;\r\ncd\r").wordAt? none ⟨line, column⟩).map
          CursorWord.name).getD "") := by
  have opened : (holding "ab;\r\ncd\r").openDocument "/w/a.ts" =
      .ok (Document.ofText "/w/a.ts" "ab;\r\ncd\r") :=
    openDocument_holding (by decide) (by decide)
  refine ⟨opened, (wordIn_agrees_iff opened none).mpr ?_⟩
  intro before after (parts : ['a', 'b', ';', '\r', '\n', 'c', 'd', '\r'] = before ++ '\r' :: after) alone
  have rest : after = ['\n', 'c', 'd', '\r'] ∨ after = [] := by
    simp only [List.cons_eq_append_iff, List.nil_eq_append_iff] at parts
    grind
  rcases rest with rfl | rfl
  · exact absurd rfl alone
  · simp

/-- The second line of the file is its third one for the card. -/
theorem wordIn_other_word :
    (holding "ab;\rcd;\nef;\n").openDocument "/w/a.ts" =
        .ok (Document.ofText "/w/a.ts" "ab;\rcd;\nef;\n") ∧
      wordIn (holding "ab;\rcd;\nef;\n") "/w/a.ts" ⟨1, 0⟩ = .ok "cd" ∧
      ∀ tree, ((Document.ofText "/w/a.ts" "ab;\rcd;\nef;\n").wordAt? tree ⟨1, 0⟩).map CursorWord.name =
        some "ef" := by
  refine ⟨openDocument_holding (by decide) (by decide), by decide, ?_⟩
  intro tree
  rw [Document.map_name_wordAt?]
  decide

end CommandLine

end ModuleScope
