import Mathlib
import ModuleScope.Code.Cursor
import ModuleScope.Proofs.Positions
import ModuleScope.Proofs.SoundTrees

/-!
From a cursor to the identifier under it. In a tree with nested spans only the nodes on the way to a
place cover it, and identifiers hold no other nodes; so a cursor that touches an identifier which is a
whole word is on that word, and the lookup by the bytes of the word gives the identifier with everything
above it.
-/
namespace ModuleScope

namespace TypeScript

namespace Tree

section Spans

variable {start stop : Nat} {children : List Tree} {tree child : Tree} {span : Span}

theorem deepestCovering_eq_none (elsewhere : ¬ tree.span.covers span = true) (above : List Tree) :
    deepestCovering span tree above = none := by
  cases tree
  rw [deepestCovering]
  exact if_neg elsewhere

theorem deepestCovering_eq (covers : tree.span.covers span = true) (above : List Tree) :
    deepestCovering span tree above =
      some ((deepestCovering.inChildren span tree.children (tree :: above)).getD ⟨tree, above⟩) := by
  cases tree with
  | node kind label whole children =>
    change whole.covers span = true at covers
    rw [deepestCovering, if_pos covers]
    cases found : deepestCovering.inChildren span children (node kind label whole children :: above) with
    | some site => simp [Tree.children, found]
    | none => simp [Tree.children, found]

theorem inChildren_eq (inhabited : span.start < span.stop)
    (follow : nested.nestedFrom start stop children = true) (member : child ∈ children)
    (covers : child.span.covers span = true) (above : List Tree) :
    deepestCovering.inChildren span children above = deepestCovering span child above := by
  induction children generalizing start with
  | nil => cases member
  | cons first rest ih =>
    simp only [nested.nestedFrom, Bool.and_eq_true] at follow
    obtain ⟨_, others⟩ := follow
    rw [deepestCovering.inChildren]
    rcases List.mem_cons.mp member with rfl | inside
    · rw [deepestCovering_eq covers]
    · have after := (of_mem_nestedFrom others inside).2.1
      have elsewhere : ¬ first.span.covers span = true := by
        rw [covers_iff] at covers ⊢
        change first.span.stop ≤ child.span.start at after
        omega
      rw [deepestCovering_eq_none elsewhere]
      exact ih others inside

end Spans

end Tree

namespace Leads

variable {site inner : Site}

theorem deepestCovering_eq (leads : Leads site inner) (proper : site.node.nested = true)
    (inhabited : inner.span.start < inner.span.stop) :
    site.node.deepestCovering inner.span site.above =
      inner.node.deepestCovering inner.span inner.above := by
  induction leads with
  | here site => rfl
  | @down site inner child member rest ih =>
    have follow := Tree.nestedFrom_children proper
    obtain ⟨nested, _⟩ := Tree.of_mem_nestedFrom follow member
    have whole := (Leads.down member rest).within proper
    have part := rest.within nested
    have found := ih nested inhabited
    have own : inner.node.span.covers inner.span = true := by simp [Span.covers, Site.span]
    rw [Tree.deepestCovering_eq whole.2, Tree.inChildren_eq inhabited follow member part.2]
    change (child.deepestCovering inner.span (site.node :: site.above)) = _ at found
    rw [found, Tree.deepestCovering_eq own]
    rfl

theorem identifierAt_eq {tree : Tree} (leads : Leads (.root tree) inner) (proper : tree.nested = true)
    (inhabited : inner.span.start < inner.span.stop) (identifier : inner.kind.isIdentifier = true)
    (leaf : inner.node.children = []) : tree.identifierAt inner.span = some inner := by
  have own : inner.node.span.covers inner.span = true := by simp [Span.covers, Site.span]
  have found : tree.deepestCovering inner.span [] = some inner := by
    refine (leads.deepestCovering_eq proper inhabited).trans ?_
    rw [Tree.deepestCovering_eq own, leaf]
    rfl
  rw [Tree.identifierAt, found, Option.bind_some, climbToIdentifier, if_neg (by simp [Site.span])]
  exact if_pos identifier

end Leads

end TypeScript

open TypeScript Text Utf8

theorem Code.annotations_eq (code : Code) :
    code.annotations = (code.tree.sites []).filterMap code.annotated? := by
  rw [Code.annotations, code.walk_eq]

namespace Document.WordSpan

variable {document : Document} {start stop : Nat} {word : List Char}
  (spans : document.WordSpan start stop word)
include spans

theorem inhabited : start < stop := by
  by_contra empty
  have nothing : stop - start = 0 := by omega
  have bytes := spans.bytes
  rw [slice, nothing, List.take_zero] at bytes
  have isWord := spans.isWord
  rw [encode_eq_nil.mp bytes.symm] at isWord
  cases isWord

theorem name_ne_empty : String.ofList word ≠ "" := by
  intro empty
  have isWord := spans.isWord
  rw [String.ofList_eq_empty_iff.mp empty] at isWord
  cases isWord

/-- A cursor that touches a word is on it, whatever tree it is looked up in. -/
theorem wordAt?_eq (tree : Option Tree) {position : Position}
    (touches : (document.rangeOf start stop).touches position) :
    document.wordAt? tree position = some ⟨String.ofList word, ⟨start, stop⟩,
      tree.bind fun tree => tree.identifierAt ⟨start, stop⟩⟩ := by
  have present : (String.ofList word != "") = true := bne_iff_ne.mpr spans.name_ne_empty
  rw [wordAt?, spans.found position touches]
  simp only [bind, Option.bind_some, spans.textOf_range, present, spans.first, spans.last, guard, if_true,
    pure]

end Document.WordSpan

namespace Text

theorem ascii_of_isWordPart {c : Char} (part : isWordPart c = true) : c.toNat < 0x80 := by
  change c.val.toNat < 0x80
  simp only [isWordPart, isWordStart, Char.isAlpha, Char.isUpper, Char.isLower, Bool.or_eq_true,
    Bool.and_eq_true, decide_eq_true_eq, beq_iff_eq, Char.le_def, UInt32.le_iff_toNat_le, ge_iff_le,
    Char.reduceVal, UInt32.reduceToNat] at part
  rcases part with (((upper | lower) | rfl) | rfl) | digit
  · omega
  · omega
  · decide
  · decide
  · omega

theorem endsInWord_of_last {text : List Char} (last : ∀ c ∈ text.getLast?, isWordPart c = false) :
    endsInWord false text = false := by
  cases text using List.reverseRecOn with
  | nil => rfl
  | append_singleton front c =>
    have other : isWordPart c = false := last c (by simp)
    have start : isWordStart c = false := by
      rw [← Bool.not_eq_true] at other ⊢
      exact fun starts => other (isWordPart_of_isWordStart starts)
    rw [endsInWord_append]
    cases endsInWord false front <;> simp [endsInWord, other, start]

end Text

/-- No character that a word may have stands right before a span or right after it. -/
def Document.Apart (document : Document) (span : Span) : Prop :=
  ∀ left right, document.text.toList = left ++ right →
    ((encode left).length = span.start → ∀ c ∈ left.getLast?, isWordPart c = false) ∧
    ((encode left).length = span.stop → ∀ c ∈ right.head?, isWordPart c = false)

/-- Where no such character stands is told by the places at which a text can be parted. -/
theorem Document.apart_iff {document : Document} {span : Span} :
    document.Apart span ↔ (List.range (document.text.toList.length + 1)).all (fun count =>
      let left := document.text.toList.take count
      ((encode left).length != span.start || left.getLast?.all (!isWordPart ·)) &&
        ((encode left).length != span.stop ||
          (document.text.toList.drop count).head?.all (!isWordPart ·))) = true := by
  simp only [List.all_eq_true, List.mem_range, Bool.and_eq_true, Bool.or_eq_true, bne_iff_ne,
    Option.all_eq_true, Bool.not_eq_true', ← imp_iff_not_or]
  constructor
  · intro apart count _
    exact apart _ _ (List.take_append_drop count _).symm
  · intro checked left right parts
    have within : left.length < document.text.toList.length + 1 := by
      rw [parts, List.length_append]
      omega
    have here := checked left.length within
    rwa [parts, List.take_left, List.drop_left] at here

instance (document : Document) (span : Span) : Decidable (document.Apart span) :=
  decidable_of_iff _ Document.apart_iff.symm

namespace Code

variable {code : Code} {site : Site}

/-- No identifier that is a word touches another character that a word may have. -/
def WordsApart (code : Code) : Prop :=
  ∀ node, code.tree.Holds node → node.kind.isIdentifier = true →
    isWord (code.textOf node).toList = true → code.document.Apart node.span

theorem wordsApart_iff : code.WordsApart ↔ code.tree.all (fun node =>
    !(node.kind.isIdentifier && isWord (code.textOf node).toList) ||
      decide (code.document.Apart node.span)) = true := by
  simp only [Tree.all_iff, Bool.or_eq_true, Bool.not_eq_true', decide_eq_true_eq, ← Bool.not_eq_true,
    Bool.and_eq_true, ← imp_iff_not_or, and_imp, WordsApart]

instance (code : Code) : Decidable code.WordsApart := decidable_of_iff _ wordsApart_iff.symm

theorem WordsApart.of_mem_walk (apart : code.WordsApart) (member : site ∈ code.walk)
    (identifier : site.kind.isIdentifier = true) (word : isWord (code.textOf site.node).toList = true) :
    code.document.Apart site.span :=
  apart site.node (leads_of_mem_walk member).holds identifier word

theorem bytesOf_eq_of_word {node : Tree} (word : isWord (code.textOf node).toList = true) :
    code.bytesOf node = encode (code.textOf node).toList := by
  have text : (code.textOf node).toList = decodeLossy (code.bytesOf node) := String.toList_ofList
  rw [text] at word ⊢
  exact eq_encode_of_ascii fun c member => ascii_of_isWordPart (isWordPart_of_mem word member)

theorem wordSpan_of_apart (bounded : site.span.stop ≤ code.document.source.length)
    (word : isWord (code.textOf site.node).toList = true) (apart : code.document.Apart site.span) :
    code.document.WordSpan site.span.start site.span.stop (code.textOf site.node).toList := by
  have bytes : code.document.slice site.span.start site.span.stop =
      encode (code.textOf site.node).toList := bytesOf_eq_of_word word
  set name := (code.textOf site.node).toList
  have present : name ≠ [] := by
    intro empty
    rw [empty] at word
    cases word
  obtain ⟨left, right, parts, start, stop⟩ := Document.exists_parts_of_slice present bounded bytes
  have before := (apart left (name ++ right) (by rw [parts, List.append_assoc])).1 start.symm
  have after := (apart (left ++ name) right parts).2 (by rw [encode_append, List.length_append, stop])
  rw [start, stop]
  exact Document.wordSpan_of_between parts ⟨word, endsInWord_of_last before, after⟩

section Cursor

variable (parsed : code.document.code? = some code) (sound : code.tree.Sound)
  (member : site ∈ code.walk) (word : isWord (code.textOf site.node).toList = true)
  (apart : code.document.Apart site.span)
include parsed sound member word apart

theorem wordSpan_of_identifier :
    code.document.WordSpan site.node.start site.node.stop (code.textOf site.node).toList :=
  wordSpan_of_apart (stop_le_of_holds parsed sound.nested (leads_of_mem_walk member).holds) word apart

/-- A cursor that touches an identifier is on its word, and the identifier is found there. -/
theorem wordAt?_of_touches (identifier : site.kind.isIdentifier = true) {position : Position}
    (touches : (code.rangeOf site.node).touches position) :
    code.wordAt? position = some ⟨code.textOf site.node, site.span, some site⟩ := by
  have leads := leads_of_mem_walk member
  have spans := wordSpan_of_identifier parsed sound member word apart
  have leaf := sound.leaf site.node leads.holds (Or.inr identifier)
  have looked := leads.identifierAt_eq sound.nested spans.inhabited identifier leaf
  rw [wordAt?, spans.wordAt?_eq _ touches, String.ofList_toList, Option.bind_some]
  change some (CursorWord.mk _ site.span (code.tree.identifierAt site.span)) = _
  rw [looked]

end Cursor

end Code

end ModuleScope
