import Mathlib
import ModuleScope.Proofs.Occurrences
import ModuleScope.Search.Definition

/-!
The order in which a definition is looked for, and what is found on a member access. Nodes are looked
at one after another: those of the document itself, then those of the other readable source files. The
type of the receiver keeps members of other classes out, but no declaration that is not a member; so a
type, function or top-level variable of the same name is found if it comes first.
-/
namespace ModuleScope

open TypeScript Text Utf8

theorem findSome?_flatMap {α β γ : Type} (find : β → Option γ) (parts : α → List β) (items : List α) :
    (items.flatMap parts).findSome? find = items.findSome? fun item => (parts item).findSome? find := by
  induction items with
  | nil => rfl
  | cons item rest ih =>
    rw [List.flatMap_cons, List.findSome?_append, ih, List.findSome?_cons]
    cases (parts item).findSome? find <;> rfl

def Document.sites (document : Document) : List (Code × Site) :=
  document.code?.elim [] fun code => code.walk.map fun site => (code, site)

theorem Document.firstDeclaration?_eq (document : Document) (name : String)
    (container : Option String) :
    document.firstDeclaration? name container =
      document.sites.findSome? fun each => each.1.matching? name container each.2 := by
  unfold Document.firstDeclaration? Document.sites
  cases document.code? with
  | none => rfl
  | some code =>
    rw [Option.elim_some, List.findSome?_map]
    rfl

/-- The nodes in which a definition is looked for from a document, when these are the source files: its
own, then those of the other files that can be read. -/
def Host.definitionSites (host : Host) (files : List String) (document : Document) :
    List (Code × Site) :=
  document.sites ++ (host.readable (files.filter (· != document.path))).flatMap Document.sites

theorem definitionIn_result (host : Host) (name : String) (container : Option String)
    (file : String) :
    (definitionIn name container file).result host =
      .ok ((host.openDocument file).toOption.bind (·.firstDeclaration? name container)) := by
  rw [definitionIn, Work.result_bind, Work.result_attempt]
  cases host.openDocument file with
  | error failure => rfl
  | ok document => simp only [Except.bind, Work.result_pure, Except.toOption, Option.bind_some]

theorem searchDefinition_result (host : Host) (name : String) (container : Option String)
    (files : List String) :
    (searchDefinition name container files).result host =
      .ok (((host.readable files).flatMap Document.sites).findSome? fun each =>
        each.1.matching? name container each.2) := by
  rw [findSome?_flatMap]
  simp only [← Document.firstDeclaration?_eq]
  induction files with
  | nil => rfl
  | cons file rest ih =>
    rw [searchDefinition, Work.result_bind, definitionIn_result]
    cases opened : host.openDocument file with
    | error failure =>
      rw [Host.readable_of_error opened]
      exact ih
    | ok document =>
      rw [Host.readable_of_ok opened, List.findSome?_cons]
      simp only [Except.toOption, Option.bind_some, Except.bind]
      cases document.firstDeclaration? name container with
      | some found => rfl
      | none => exact ih

theorem findDefinition_in_sites {host : Host} {files : List String}
    (listed : host.findFiles sourcePatterns none = .ok files) {document : Document}
    {position : Position} {word : CursorWord}
    (touched : document.wordAt? (document.code?.map Code.tree) position = some word)
    (elsewhere : (document.code?.bind fun code => code.declarationAtWord? word) = none) :
    (findDefinition document position).result host =
      .ok ((host.definitionSites files document).findSome? fun each =>
        each.1.matching? word.name (document.code?.bind fun code => code.receiverTypeOf? word)
          each.2) := by
  have own : localDefinition? document.code? word = document.firstDeclaration? word.name
      (document.code?.bind fun code => code.receiverTypeOf? word) := by
    rw [Document.firstDeclaration?, localDefinition?]
    cases parsed : document.code? with
    | none => rfl
    | some code =>
      rw [parsed, Option.bind_some] at elsewhere
      simp only [Option.bind_some, elsewhere, Option.none_or]
  simp only [findDefinition, touched, own, Host.definitionSites, List.findSome?_append,
    ← document.firstDeclaration?_eq]
  cases document.firstDeclaration? word.name
      (document.code?.bind fun code => code.receiverTypeOf? word) with
  | some found => rfl
  | none =>
    simp only [Work.result_bind, Work.result_files, listed, searchDefinition_result, Option.none_or,
      Except.bind]

theorem findDefinition_result {host : Host} {files : List String}
    (listed : host.findFiles sourcePatterns none = .ok files) {document : Document} {code : Code}
    (parsed : document.code? = some code) {position : Position} {word : CursorWord}
    (touched : code.wordAt? position = some word) (elsewhere : code.declarationAtWord? word = none) :
    (findDefinition document position).result host =
      .ok ((host.definitionSites files document).findSome? fun each =>
        each.1.matching? word.name (code.receiverTypeOf? word) each.2) := by
  have touching : document.wordAt? (document.code?.map Code.tree) position = some word := by
    rw [parsed]
    obtain ⟨rfl, _⟩ := document.code?_eq parsed
    exact touched
  have unnamed : (document.code?.bind fun code => code.declarationAtWord? word) = none := by
    rw [parsed, Option.bind_some, elsewhere]
  rw [findDefinition_in_sites listed touching unnamed, parsed, Option.bind_some]

namespace Code

/-- A node declares a method or field of a name in a container. -/
def DeclaresMember (code : Code) (name container : String) (site : Site) : Prop :=
  (site.kind.isMethod || site.kind.isField) = true ∧ code.nameOf? site.node = some name ∧
    code.ownerName? site = some container

/-- A node declares a type, a function or a top-level variable of a name. -/
def DeclaresFree (code : Code) (name : String) (site : Site) : Prop :=
  (site.kind.isTypeDeclaration || site.kind.isFunction) = true ∧ code.nameOf? site.node = some name ∨
    site.kind = .variableDeclarator ∧ isTopLevel site = true ∧
      ∃ declared, site.node.child? .name = some declared ∧ declared.kind = .identifier ∧
        code.textOf declared = name

variable {code : Code} {name : String} {site : Site}

theorem matching?_of_member {owner : String} (declares : code.DeclaresMember name owner site)
    {wanted : Option String} (kept : matchesContainer wanted (some owner) = true) :
    ∃ kind, (kind = .method ∨ kind = .field) ∧
      code.matching? name wanted site = some (code.definition site name kind (some owner)) := by
  obtain ⟨member, named, owned⟩ := declares
  have type := (Bool.or_eq_false_iff.mp (free_of_member member)).1
  refine ⟨if site.kind.isMethod then .method else .field, ?_, ?_⟩
  · cases site.kind.isMethod <;> simp
  · simp [matching?, type, member, named, owned, kept]

theorem matching?_of_free (declares : code.DeclaresFree name site) (wanted : Option String) :
    ∃ kind, code.matching? name wanted site = some (code.definition site name kind none) := by
  rcases declares with ⟨free, named⟩ | ⟨declarator, top, declared, held, identifier, text⟩
  · have other : (site.kind.isMethod || site.kind.isField) = false := by
      cases member : site.kind.isMethod || site.kind.isField with
      | false => rfl
      | true =>
        rw [free_of_member member] at free
        cases free
    cases type : site.kind.isTypeDeclaration with
    | true => exact ⟨code.classKind site, by simp [matching?, type, named]⟩
    | false =>
      rw [type, Bool.false_or] at free
      exact ⟨.function, by simp [matching?, type, other, free, named]⟩
  · refine ⟨.field, ?_⟩
    simp [matching?, declarator, held, identifier, text, top, Kind.isTypeDeclaration, Kind.isClass,
      Kind.isMethod, Kind.isField, Kind.isFunction]

/-- The container keeps members of other classes out, and nothing else. -/
theorem matching?_cases {wanted : Option String} {definition : Definition}
    (matched : code.matching? name wanted site = some definition) :
    (site.kind.isMethod || site.kind.isField) = true ∧ code.nameOf? site.node = some name ∧
        matchesContainer wanted (code.ownerName? site) = true ∧
        definition.container = code.ownerName? site ∨
      code.DeclaresFree name site := by
  simp only [matching?] at matched
  split at matched
  · next type =>
    obtain ⟨named, _⟩ := Option.ite_none_right_eq_some.mp matched
    exact .inr (.inl ⟨by simp [type], by simpa using named⟩)
  split at matched
  · next member =>
    obtain ⟨owned, given⟩ := Option.ite_none_right_eq_some.mp matched
    simp only [Bool.and_eq_true, beq_iff_eq] at owned
    obtain rfl := Option.some.inj given
    exact .inl ⟨member, owned.1, owned.2, rfl⟩
  split at matched
  · next function =>
    obtain ⟨named, _⟩ := Option.ite_none_right_eq_some.mp matched
    exact .inr (.inl ⟨by simp [function], by simpa using named⟩)
  split at matched
  · next declarator =>
    split at matched
    · next declared held =>
      obtain ⟨conditions, _⟩ := Option.ite_none_right_eq_some.mp matched
      simp only [Bool.and_eq_true, beq_iff_eq] at conditions declarator
      obtain ⟨⟨identifier, text⟩, top⟩ := conditions
      exact .inr (.inr ⟨declarator, top, declared, held, identifier, text⟩)
    · cases matched
  · cases matched

theorem declarationAtWord?_of_access {word : CursorWord} {receiver : Site}
    (access : word.receiver? = some receiver) : code.declarationAtWord? word = none := by
  obtain ⟨site, held, before⟩ := Option.bind_eq_some_iff.mp access
  obtain ⟨parent, _, _, parental, member, _⟩ := memberReceiver?_eq_some before
  have apart : code.declarationOf? parent word.name = none := by
    simp [declarationOf?, member, Kind.isTypeDeclaration, Kind.isClass, Kind.isMethod, Kind.isField,
      Kind.isFunction]
  simp [declarationAtWord?, held, declarationAt?, parental, apart]

end Code

/-- On a member access whose receiver has a known type, the answer is the first node that declares a
method or field of that type or, of the same name, anything but a method or field. So it is a member of
the type if no declaration of the second sort comes first. -/
theorem findDefinition_on_access {host : Host} {files : List String}
    (listed : host.findFiles sourcePatterns none = .ok files) {document : Document} {code : Code}
    (parsed : document.code? = some code) {position : Position} {word : CursorWord}
    (touched : code.wordAt? position = some word) {type : String}
    (resolved : code.receiverTypeOf? word = some type) :
    ∃ answer, (findDefinition document position).result host = .ok answer ∧
      match answer with
      | none => ∀ each ∈ host.definitionSites files document,
          ¬ each.1.DeclaresMember word.name type each.2 ∧ ¬ each.1.DeclaresFree word.name each.2
      | some definition => ∃ before declaring after,
          host.definitionSites files document = before ++ declaring :: after ∧
          (∀ each ∈ before,
            ¬ each.1.DeclaresMember word.name type each.2 ∧ ¬ each.1.DeclaresFree word.name each.2) ∧
          definition = declaring.1.definition declaring.2 word.name definition.kind
            definition.container ∧
          (declaring.1.DeclaresMember word.name type declaring.2 ∧
              (definition.kind = .method ∨ definition.kind = .field) ∧
              definition.container = some type ∨
            declaring.1.DeclaresFree word.name declaring.2 ∧ definition.container = none) := by
  obtain ⟨receiver, access, _⟩ := Option.bind_eq_some_iff.mp resolved
  have elsewhere : code.declarationAtWord? word = none := Code.declarationAtWord?_of_access access
  have own : Code.matchesContainer (some type) (some type) = true := beq_self_eq_true _
  -- What declares either gives a definition, so what gives none declares neither.
  have silent (each : Code × Site) (skipped : each.1.matching? word.name (some type) each.2 = none) :
      ¬ each.1.DeclaresMember word.name type each.2 ∧ ¬ each.1.DeclaresFree word.name each.2 := by
    constructor
    · intro member
      obtain ⟨kind, _, given⟩ := Code.matching?_of_member member own
      rw [given] at skipped
      cases skipped
    · intro free
      obtain ⟨kind, given⟩ := Code.matching?_of_free free (some type)
      rw [given] at skipped
      cases skipped
  refine ⟨_, findDefinition_result listed parsed touched elsewhere, ?_⟩
  rw [resolved]
  split
  · next none =>
    intro each inside
    exact silent each (List.findSome?_eq_none_iff.mp none each inside)
  · next definition found =>
    obtain ⟨before, declaring, after, order, given, skipped⟩ := List.findSome?_eq_some_iff.mp found
    refine ⟨before, declaring, after, order, fun each earlier => silent each (skipped each earlier), ?_⟩
    rcases Code.matching?_cases given with ⟨isMember, named, owned, _⟩ | free
    · have member : declaring.1.DeclaresMember word.name type declaring.2 :=
        ⟨isMember, named, beq_iff_eq.mp owned⟩
      obtain ⟨kind, methodOrField, constrained⟩ := Code.matching?_of_member member own
      obtain rfl := Option.some.inj (constrained.symm.trans given)
      exact ⟨rfl, .inl ⟨member, methodOrField, rfl⟩⟩
    · obtain ⟨kind, unconstrained⟩ := Code.matching?_of_free free (some type)
      obtain rfl := Option.some.inj (unconstrained.symm.trans given)
      exact ⟨rfl, .inr ⟨free, rfl⟩⟩

def Code.ofText (text : String) : Code := ⟨.ofText "/w/a.ts" text, parse .typescript text.toList⟩

theorem Code.ofText_parsed (text : String) : (ofText text).document.code? = some (ofText text) :=
  Document.code?_ofText (by decide) text

theorem Code.definitionSites_alone {code : Code} (parsed : code.document.code? = some code)
    (host : Host) {files : List String} (alone : files.filter (· != code.document.path) = []) :
    host.definitionSites files code.document =
      (code.tree.sites []).map fun site => (code, site) := by
  simp only [Host.definitionSites, alone, Host.readable, List.filterMap_nil, List.flatMap_nil,
    List.append_nil, Document.sites, parsed, Option.elim_some, code.walk_eq]

/-- What is found on an access in a document that stands alone, when the word at the cursor, its receiver's
type and the first definition have been computed. -/
theorem Code.findDefinition_of_access {host : Host}
    (listed : host.findFiles sourcePatterns none = .ok []) {code : Code}
    (parsed : code.document.code? = some code) {position : Position} (name : String)
    {type : String} {found : Option Definition}
    (computed : ((code.wordAt? position).bind fun word =>
      (word.receiver?.bind (code.receiverType? ((code.tree.sites []).filterMap code.annotated?))).map
        fun type => (word.name, type)) = some (name, type) ∧
      (code.tree.sites []).findSome? (code.matching? name (some type)) = found) :
    ∃ word, code.wordAt? position = some word ∧ code.receiverTypeOf? word = some type ∧
      (findDefinition code.document position).result host = .ok found := by
  obtain ⟨word, touched, typed⟩ := Option.bind_eq_some_iff.mp computed.1
  obtain ⟨_, resolved, same⟩ := Option.map_eq_some_iff.mp typed
  obtain ⟨rfl, rfl⟩ := Prod.mk.inj same
  obtain ⟨receiver, access, _⟩ := Option.bind_eq_some_iff.mp resolved
  rw [← code.annotations_eq] at resolved
  have typedAs : code.receiverTypeOf? word = some _ := resolved
  refine ⟨word, touched, typedAs, ?_⟩
  rw [findDefinition_result listed parsed touched (declarationAtWord?_of_access access),
    Code.definitionSites_alone parsed host List.filter_nil, List.findSome?_map, typedAs]
  exact congrArg Except.ok computed.2

/-- A method before a class of the same name is found on an access to it. -/
theorem findDefinition_on_access_ownMethod :
    let code := Code.ofText "class A\x7bm()\x7bthis.m\x7d\x7dclass m\x7b\x7d"
    ∃ word, code.wordAt? ⟨0, 17⟩ = some word ∧ code.receiverTypeOf? word = some "A" ∧
      ∃ definition, (findDefinition code.document ⟨0, 17⟩).result (.oneText "") =
          .ok (some definition) ∧
        (definition.kind = .method ∨ definition.kind = .field) ∧ definition.container = some "A" := by
  intro code
  have parsed : code.document.code? = some code := Code.ofText_parsed _
  have listed : (Host.oneText "").findFiles sourcePatterns none = .ok [] := rfl
  obtain ⟨word, touched, resolved, found⟩ :
      ∃ word, code.wordAt? ⟨0, 17⟩ = some word ∧ code.receiverTypeOf? word = some "A" ∧
        (findDefinition code.document ⟨0, 17⟩).result (.oneText "") =
          .ok (some ⟨"m", "/w/a.ts", ⟨⟨0, 8⟩, ⟨0, 19⟩⟩, .method, some "A"⟩) :=
    Code.findDefinition_of_access listed parsed "m" (by decide +kernel)
  obtain ⟨answer, result, described⟩ := findDefinition_on_access listed parsed touched resolved
  obtain rfl := Except.ok.inj (result.symm.trans found)
  obtain ⟨before, declaring, after, _, _, _, member | free⟩ := described
  · exact ⟨word, touched, resolved, _, found, member.2⟩
  · cases free.2

/-- A class before a method of the same name is found on an access to the method. -/
theorem findDefinition_on_access_otherClass :
    let code := Code.ofText "class m\x7b\x7dclass A\x7bm()\x7bthis.m\x7d\x7d"
    ∃ word, code.wordAt? ⟨0, 26⟩ = some word ∧ code.receiverTypeOf? word = some "A" ∧
      (findDefinition code.document ⟨0, 26⟩).result (.oneText "") =
        .ok (some ⟨"m", "/w/a.ts", ⟨⟨0, 0⟩, ⟨0, 9⟩⟩, .classType, none⟩) := by
  intro code
  have parsed : code.document.code? = some code := Code.ofText_parsed _
  have listed : (Host.oneText "").findFiles sourcePatterns none = .ok [] := rfl
  exact Code.findDefinition_of_access listed parsed "m" (by decide +kernel)

end ModuleScope
