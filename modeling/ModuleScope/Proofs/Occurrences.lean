import Mathlib
import ModuleScope.Proofs.IdentifierLookup
import ModuleScope.Proofs.UsageScope

/-!
Occurrences of a symbol, seen from both sides. The search in a document reports exactly the identifiers
that mention the symbol, and from a cursor on such an identifier the search is for the same symbol and
container. A container is never the empty text, which would count as none: a class is called by a part
of the text, and declared types are kept only if they are not empty.
-/
namespace ModuleScope

open TypeScript Text Utf8

namespace Code

theorem occursIn_iff {part bytes : List UInt8} : occursIn part bytes = true ↔ part <:+: bytes := by
  induction bytes with
  | nil => rw [occursIn, List.isEmpty_iff, List.infix_nil]
  | cons byte rest ih =>
    rw [occursIn, Bool.or_eq_true, List.isPrefixOf_iff_prefix, ih, List.infix_cons_iff]

section Containers

variable {code : Code}

theorem nameOf?_ne_empty {node : Tree} (fits : code.Fits node) {name : String}
    (named : code.nameOf? node = some name) : name ≠ "" := by
  obtain ⟨child, held, rfl⟩ := Option.map_eq_some_iff.mp named
  have inside := fits.of_mem_children (List.mem_of_find?_eq_some held)
  have labelled : child.label = some .name := by simpa using List.find?_some held
  have inhabited := inside.sound.inhabited child (.here child) (Or.inr labelled)
  have bounded := inside.bounded
  have bytes : code.bytesOf child ≠ [] := by
    rw [bytesOf, Document.slice, ← List.length_pos_iff, List.length_take, List.length_drop]
    omega
  intro empty
  have text := congrArg String.toList empty
  rw [textOf, String.toList_ofList] at text
  exact decodeLossy_ne_nil bytes text

theorem mem_of_enclosingClass? {site owner : Site} (enclosing : site.enclosingClass? = some owner) :
    owner.node ∈ site.above := by
  rw [Site.enclosingClass?] at enclosing
  induction above : site.above generalizing site with
  | nil =>
    rw [above] at enclosing
    cases enclosing
  | cons first rest ih =>
    rw [above, Site.enclosingClass?.go] at enclosing
    split at enclosing
    · obtain rfl := Option.some.inj enclosing
      exact List.mem_cons_self
    · exact List.mem_cons_of_mem _ (@ih ⟨site.node, rest⟩ enclosing rfl)

theorem exists_of_firstNamed {annotations : List (String × String)} {above children : List Tree}
    {container : String}
    (resolved : receiverTypeIn.firstNamed code annotations above children = some container) :
    ∃ child ∈ children, code.receiverTypeIn annotations child above = some container := by
  induction children with
  | nil => cases resolved
  | cons first rest ih =>
    rw [receiverTypeIn.firstNamed] at resolved
    split at resolved
    · exact ⟨first, by simp, resolved⟩
    · obtain ⟨child, member, found⟩ := ih resolved
      exact ⟨child, List.mem_cons_of_mem first member, found⟩

theorem typeIn_ne_empty {annotations : List (String × String)}
    (typed : ∀ entry ∈ annotations, entry.2 ≠ "") {name container : String}
    (found : typeIn annotations name = some container) : container ≠ "" := by
  obtain ⟨entry, first, rfl⟩ := Option.map_eq_some_iff.mp found
  exact typed entry (List.mem_of_find?_eq_some first)

theorem annotations_ne_empty (code : Code) : ∀ entry ∈ code.annotations, entry.2 ≠ "" := by
  intro entry member
  obtain ⟨site, _, annotated⟩ := List.mem_filterMap.mp member
  simp only [annotated?, bind, Option.bind_eq_some_iff, guard, pure, Option.some.injEq] at annotated
  obtain ⟨name, _, written, _, type, _, _, present, rfl⟩ := annotated
  split at present
  · next nonempty => exact bne_iff_ne.mp nonempty
  · cases present

theorem receiverTypeIn_ne_empty {annotations : List (String × String)}
    (typed : ∀ entry ∈ annotations, entry.2 ≠ "") {node : Tree} {above : List Tree} {container : String}
    (fits : ∀ each ∈ node :: above, code.Fits each)
    (resolved : code.receiverTypeIn annotations node above = some container) : container ≠ "" := by
  -- On the size of the node: `!` may be written after a receiver again and again.
  induction size : node.size using Nat.strong_induction_on generalizing node above with
  | _ bound ih =>
    cases node with
    | node kind label span children =>
      unfold receiverTypeIn at resolved
      split at resolved
      · obtain ⟨owner, enclosing, named⟩ := Option.bind_eq_some_iff.mp resolved
        exact nameOf?_ne_empty (fits _ (List.mem_cons_of_mem _ (mem_of_enclosingClass? enclosing))) named
      · exact typeIn_ne_empty typed resolved
      · split at resolved
        · split at resolved
          · exact typeIn_ne_empty typed resolved
          · cases resolved
        · cases resolved
      · obtain ⟨child, member, found⟩ := exists_of_firstNamed resolved
        refine ih _ (size ▸ Tree.size_lt_of_mem member) (fun each on => ?_) found rfl
        rcases List.mem_cons.mp on with rfl | before
        · have whole := fits _ List.mem_cons_self
          exact whole.of_mem_children member
        · exact fits each before
      · cases resolved

end Containers

theorem above_of_parent? {site parent : Site} (parental : site.parent? = some parent) :
    site.above = parent.node :: parent.above := by
  unfold Site.parent? at parental
  split at parental
  · cases parental
  · next above =>
    obtain rfl := Option.some.inj parental
    exact above

theorem memberReceiver?_eq_some {site receiver : Site} (access : memberReceiver? site = some receiver) :
    ∃ parent object, site.kind = .propertyIdentifier ∧ site.parent? = some parent ∧
      parent.kind = .memberExpression ∧ parent.node.child? .object = some object ∧
      receiver = parent.below object := by
  simp only [memberReceiver?, bind, Option.bind_eq_some_iff, Option.guard_eq_some', beq_iff_eq] at access
  obtain ⟨_, property, parent, parental, _, member, _, _, held⟩ := access
  obtain ⟨object, first, rfl⟩ := Option.map_eq_some_iff.mp held
  exact ⟨parent, object, property, parental, member, first, rfl⟩

theorem free_of_member {kind : Kind} (member : (kind.isMethod || kind.isField) = true) :
    (kind.isTypeDeclaration || kind.isFunction) = false := by
  cases kind <;> first | rfl | cases member

theorem ownerName?_ne_empty {code : Code} {declaration : Site}
    (fits : ∀ each ∈ declaration.above, code.Fits each) {container : String}
    (owned : code.ownerName? declaration = some container) : container ≠ "" := by
  unfold ownerName? at owned
  split at owned
  · next body owner above around =>
    split at owned
    · exact nameOf?_ne_empty (fits owner (by simp [around])) owned
    · cases owned
  · cases owned

theorem receiverType?_ne_empty {code : Code} (parsed : code.document.code? = some code)
    (sound : code.tree.Sound) {site receiver : Site} (member : site ∈ code.walk)
    (access : memberReceiver? site = some receiver)
    {container : String} (resolved : code.receiverType? code.annotations receiver = some container) :
    container ≠ "" := by
  have fits := fits_of_leads parsed sound (leads_of_mem_walk member)
  obtain ⟨parent, object, _, parental, _, first, rfl⟩ := memberReceiver?_eq_some access
  have around := above_of_parent? parental
  have beside := fits parent.node (by rw [around]; simp)
  have inside := beside.of_mem_children (List.mem_of_find?_eq_some first)
  refine receiverTypeIn_ne_empty code.annotations_ne_empty (List.forall_mem_cons.mpr ⟨inside, ?_⟩)
    resolved
  intro each above
  exact fits each (List.mem_cons_of_mem _ (around.symm ▸ above))

theorem refersTo_none {code : Code} {annotations : List (String × String)} {site : Site} :
    code.refersTo annotations none site = true ↔ memberReceiver? site = none := by
  cases access : memberReceiver? site <;> simp [refersTo, access]

theorem refersTo_some {code : Code} {annotations : List (String × String)} {site : Site}
    {container : String} :
    code.refersTo annotations (some container) site = true ↔ ∃ receiver,
      memberReceiver? site = some receiver ∧
        code.receiverType? annotations receiver = some container := by
  cases access : memberReceiver? site <;> simp [refersTo, access]

/-- An identifier refers to a symbol of a container, or of none: what a search for the symbol reports. -/
structure Mentions (code : Code) (symbol : String) (container : Option String) (site : Site) :
    Prop where
  member : site ∈ code.walk
  identifier : site.kind.isIdentifier = true
  bytes : code.bytesOf site.node = encode symbol.toList
  reference : isDeclaration site = false
  refers : code.refersTo code.annotations container site = true

theorem mentions_of_refers {code : Code} {site : Site} (member : site ∈ code.walk)
    (identifier : site.kind.isIdentifier = true) (word : isWord (code.textOf site.node).toList = true)
    (reference : isDeclaration site = false) {container : Option String}
    (refers : code.refersTo code.annotations container site = true) :
    code.Mentions (code.textOf site.node) container site where
  member := member
  identifier := identifier
  bytes := bytesOf_eq_of_word word
  reference := reference
  refers := refers

namespace Mentions

variable {code : Code} {symbol : String} {container : Option String} {site : Site}

theorem textOf_eq (mentions : code.Mentions symbol container site) :
    code.textOf site.node = symbol := by
  rw [textOf, mentions.bytes, decodeLossy_encode, String.ofList_toList]

theorem apart (mentions : code.Mentions symbol container site) (apart : code.WordsApart)
    (word : isWord symbol.toList = true) : code.document.Apart site.span := by
  rw [← mentions.textOf_eq] at word
  exact apart.of_mem_walk mentions.member mentions.identifier word

theorem containerFor?_eq (mentions : code.Mentions symbol container site) (span : Span) :
    containerFor? (some code) ⟨symbol, span, some site⟩ none = some container := by
  cases container with
  | none =>
    have plain := refersTo_none.mp mentions.refers
    simp [containerFor?, CursorWord.isPropertyAccess, CursorWord.receiver?, plain]
  | some wanted =>
    obtain ⟨receiver, access, resolved⟩ := refersTo_some.mp mentions.refers
    simp [containerFor?, CursorWord.isPropertyAccess, CursorWord.receiver?, receiverTypeOf?, access,
      resolved]

theorem container_ne_empty (mentions : code.Mentions symbol container site)
    (parsed : code.document.code? = some code) (sound : code.tree.Sound) :
    container.filter (· != "") = container := by
  cases container with
  | none => rfl
  | some wanted =>
    obtain ⟨receiver, access, resolved⟩ := refersTo_some.mp mentions.refers
    have present := receiverType?_ne_empty parsed sound mentions.member access resolved
    simp [Option.filter_some, present]

variable (mentions : code.Mentions symbol container site) (parsed : code.document.code? = some code)
  (sound : code.tree.Sound) (word : isWord symbol.toList = true)
  (apart : code.document.Apart site.span)
include mentions parsed sound word apart

theorem wordAt?_eq {position : Position} (touches : (code.rangeOf site.node).touches position) :
    code.wordAt? position = some ⟨symbol, site.span, some site⟩ := by
  rw [← mentions.textOf_eq] at word ⊢
  exact wordAt?_of_touches parsed sound mentions.member word apart mentions.identifier touches

theorem touches_start : (code.rangeOf site.node).touches (code.rangeOf site.node).start := by
  rw [← mentions.textOf_eq] at word
  exact (wordSpan_of_identifier parsed sound mentions.member word apart).begins

/-- From a cursor on an identifier that mentions a symbol, the search is for that symbol and its
container. -/
theorem findUsages_result {position : Position}
    (touches : (code.rangeOf site.node).touches position) (host : Host) (graph : Option ModuleGraph)
    (scoping : Bool) :
    (findUsages code.document position graph scoping none).result host =
      ((scopeOf graph scoping code.document).result host).bind fun scope =>
        (searchUsages symbol scope container graph).result host := by
  have touched : code.document.wordAt? (code.document.code?.map tree) position =
      some ⟨symbol, site.span, some site⟩ := by
    rw [parsed]
    exact mentions.wordAt?_eq parsed sound word apart touches
  have wanted : containerFor? code.document.code? ⟨symbol, site.span, some site⟩ none =
      some container := by
    rw [parsed]
    exact mentions.containerFor?_eq site.span
  exact findUsages_of_container touched wanted host graph scoping

end Mentions

end Code

namespace Workspace

variable {workspace : Workspace}

theorem gives_of_texts {property : Code → Prop}
    (each : ∀ text ∈ workspace.files.texts, ∀ dialect path,
      property ⟨.ofText path (String.ofList text), parse dialect text⟩) :
    workspace.host.Gives property := by
  intro path document code opened parsed
  obtain ⟨text, member, rfl⟩ := FileSystem.exists_text_of_openDocument opened
  obtain ⟨dialect, _, rfl⟩ := Option.map_eq_some_iff.mp parsed
  have same : (Document.ofText path (String.ofList text)).text.toList = text := String.toList_ofList
  rw [same]
  exact each text member dialect path

theorem sound_of_texts (computed : ∀ text ∈ workspace.files.texts,
    ∀ dialect ∈ [Dialect.typescript, .tsx], (parse dialect text).Sound) :
    workspace.host.Gives (·.tree.Sound) := by
  apply gives_of_texts
  intro text member dialect path
  exact computed text member dialect (by cases dialect <;> simp)

/-- Both facts about the same texts, to be computed together. -/
theorem sound_and_wordsApart_of_texts (computed : ∀ text ∈ workspace.files.texts,
    ∀ dialect ∈ [Dialect.typescript, .tsx], (parse dialect text).Sound ∧
      Code.WordsApart ⟨.ofText "" (String.ofList text), parse dialect text⟩) :
    workspace.host.Gives (·.tree.Sound) ∧ workspace.host.Gives Code.WordsApart := by
  refine ⟨sound_of_texts fun text member dialect known => (computed text member dialect known).1, ?_⟩
  apply gives_of_texts
  intro text member dialect path
  exact (computed text member dialect (by cases dialect <;> simp)).2

end Workspace

/-- A document that is passed over for lack of the symbol's bytes would have had nothing to report. -/
theorem Document.usages_eq_occurrences {document : Document} {code : Code}
    (parsed : document.code? = some code) (symbol : String) (container moduleName : Option String) :
    document.usages symbol container moduleName =
      code.occurrences symbol (container.filter (· != "")) moduleName := by
  obtain ⟨rfl, _⟩ := document.code?_eq parsed
  unfold Document.usages
  split
  · rw [parsed]
  · next absent =>
    have nothing : code.occurrences symbol (container.filter (· != "")) moduleName = [] := by
      rw [Code.occurrences, List.map_eq_nil_iff, List.filter_eq_nil_iff]
      intro site _ kept
      simp only [Bool.and_eq_true, beq_iff_eq] at kept
      apply absent
      rw [Code.occursIn_iff, ← kept.1.1.2]
      exact (List.take_prefix _ _).isInfix.trans (List.drop_suffix _ _).isInfix
    exact nothing.symm

/-- The search in a document reports the identifiers that mention the symbol, and no others. -/
theorem Document.mem_usages_iff {document : Document} {symbol : String}
    {container moduleName : Option String} {usage : Usage} :
    usage ∈ document.usages symbol container moduleName ↔
      ∃ code site, document.code? = some code ∧
        code.Mentions symbol (container.filter (· != "")) site ∧
        usage = code.usage moduleName site.node := by
  have annotations (code : Code) (site : Site) (wanted : Option String) :
      code.refersTo (if wanted.isSome then code.annotations else []) wanted site =
        code.refersTo code.annotations wanted site := by
    cases wanted with
    | some container => rfl
    | none => cases access : Code.memberReceiver? site <;> simp only [Code.refersTo, access]
  cases parsed : document.code? with
  | none => simp [Document.usages, parsed]
  | some code =>
    rw [Document.usages_eq_occurrences parsed]
    simp only [Code.occurrences, annotations, List.mem_map, List.mem_filter, Bool.and_eq_true,
      Bool.not_eq_true', beq_iff_eq]
    constructor
    · rintro ⟨site, ⟨walked, ⟨⟨identifier, bytes⟩, reference⟩, refers⟩, rfl⟩
      exact ⟨code, site, rfl, ⟨walked, identifier, bytes, reference, refers⟩, rfl⟩
    · rintro ⟨_, site, same, mentions, rfl⟩
      obtain rfl := Option.some.inj same
      exact ⟨site, ⟨mentions.member, ⟨⟨mentions.identifier, mentions.bytes⟩, mentions.reference⟩,
        mentions.refers⟩, rfl⟩

end ModuleScope
