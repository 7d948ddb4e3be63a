import Mathlib
import ModuleScope.Proofs.CacheTransparency
import ModuleScope.Proofs.UsageClosure

/-!
Queries about a member agree from every side. A cursor on the name in a declaration takes the container
from the class around it, one on the property of an access takes it from the receiver, and both lead to
the search for the same symbol of the same container.
-/
namespace ModuleScope

open TypeScript Text Utf8

namespace Code

/-- An identifier names a member of a container: in the declaration of the member there, or as the
property of an access to a receiver that has the container as its type. -/
inductive NamesMember (code : Code) (container : String) (site : Site) : Prop
  | declared (declaration : Site) (inside : site.parent? = some declaration)
      (isMember : (declaration.kind.isMethod || declaration.kind.isField) = true)
      (named : declaration.node.holds .name site.node = true)
      (owned : code.ownerName? declaration = some container)
  | accessed (receiver : Site) (access : memberReceiver? site = some receiver)
      (resolved : code.receiverType? code.annotations receiver = some container)

section Declared

variable {code : Code} {site declaration : Site} {container : String}
  (inside : site.parent? = some declaration)
  (isMember : (declaration.kind.isMethod || declaration.kind.isField) = true)
include inside isMember

theorem memberReceiver?_of_declared : memberReceiver? site = none := by
  rw [Option.eq_none_iff_forall_ne_some]
  intro receiver access
  obtain ⟨parent, _, _, parental, member, _⟩ := memberReceiver?_eq_some access
  obtain rfl := Option.some.inj (inside.symm.trans parental)
  rw [member] at isMember
  cases isMember

theorem declarationAt?_of_declared (named : declaration.node.holds .name site.node = true)
    (owned : code.ownerName? declaration = some container) (name : String) :
    ∃ found, code.declarationAt? site name = some found ∧ found.container = some container := by
  have noType := (Bool.or_eq_false_iff.mp (free_of_member isMember)).1
  have given : code.declarationAt? site name = code.declarationOf? declaration name := by
    simp [declarationAt?, inside, named, guard]
  rw [given, declarationOf?]
  simp only [noType, Bool.false_eq_true, if_false]
  rcases Bool.or_eq_true_iff.mp isMember with method | field
  · exact ⟨_, if_pos method, owned⟩
  · by_cases method : declaration.kind.isMethod = true
    · exact ⟨_, if_pos method, owned⟩
    · exact ⟨_, (if_neg method).trans (if_pos field), owned⟩

end Declared

theorem NamesMember.container_ne_empty {code : Code} {container : String} {site : Site}
    (names : code.NamesMember container site) (parsed : code.document.code? = some code)
    (sound : code.tree.Sound) (member : site ∈ code.walk) : container ≠ "" := by
  cases names with
  | accessed receiver access resolved => exact receiverType?_ne_empty parsed sound member access resolved
  | declared declaration inside _ _ owned =>
    have fits := fits_of_leads parsed sound (code.leads_of_mem_walk member)
    refine ownerName?_ne_empty (fun each above => fits each ?_) owned
    rw [above_of_parent? inside]
    simp [above]

end Code

def Host.OnMember (host : Host) (path : String) (position : Position) (symbol container : String) :
    Prop :=
  ∃ (code : Code) (site : Site), host.openDocument path = .ok code.document ∧
    code.document.code? = some code ∧ site ∈ code.walk ∧ site.kind.isIdentifier = true ∧
    code.textOf site.node = symbol ∧ code.NamesMember container site ∧
    (code.rangeOf site.node).touches position

namespace Query

variable {host : Host} {path : String} {position : Position} {document : Document} {word : CursorWord}
  (opened : host.openDocument path = .ok document)
  (touched : document.wordAt? (document.code?.map Code.tree) position = some word)
include opened touched

/-- The container of an access is left to the search. -/
theorem locate_of_access (access : word.isPropertyAccess = true) :
    (Query.mk .usages path position).locate.result host = .ok (.symbol document none) := by
  rw [locate, Work.result_bind, Work.result_document, opened]
  simp only [Except.bind, touched, access, if_true, Work.result_pure]

/-- The container of any other word is that of its definition. -/
theorem locate_of_plain (access : word.isPropertyAccess = false) {found : Option Definition}
    (defined : (findDefinition document position).result host = .ok found) :
    (Query.mk .usages path position).locate.result host =
      .ok (.symbol document (found.bind Definition.container)) := by
  rw [locate, Work.result_bind, Work.result_document, opened]
  simp only [Except.bind, touched, access, Bool.false_eq_true, if_false, Work.result_bind, defined,
    Work.result_pure]

end Query

namespace Host.OnMember

variable {host : Host} {path : String} {position : Position} {symbol container : String}

theorem container_ne_empty (cursor : host.OnMember path position symbol container)
    (sound : host.Gives (·.tree.Sound)) : container ≠ "" := by
  obtain ⟨code, _, opened, parsed, member, _, _, names, _⟩ := cursor
  exact names.container_ne_empty parsed (sound path code.document code opened parsed) member

theorem locate_result (cursor : host.OnMember path position symbol container)
    (sound : host.Gives (·.tree.Sound)) (apart : host.Gives Code.WordsApart)
    (word : isWord symbol.toList = true) :
    ∃ document given,
      (Query.mk .usages path position).locate.result host = .ok (.symbol document given) ∧
      ∀ (graph : Option ModuleGraph) (scoping : Bool),
        (findUsages document position graph scoping given).result host =
          ((scopeOf graph scoping document).result host).bind fun scope =>
            (searchUsages symbol scope (some container) graph).result host := by
  obtain ⟨code, site, opened, parsed, member, identifier, rfl, names, touches⟩ := cursor
  have touched : code.document.wordAt? (code.document.code?.map Code.tree) position =
      some ⟨code.textOf site.node, site.span, some site⟩ := by
    have alone := (apart path code.document code opened parsed).of_mem_walk member identifier word
    rw [parsed]
    exact Code.wordAt?_of_touches parsed (sound path code.document code opened parsed) member word alone
      identifier touches
  cases names with
  | declared declaration inside isMember named owned =>
    have noAccess := Code.memberReceiver?_of_declared inside isMember
    obtain ⟨found, given, holds⟩ :=
      Code.declarationAt?_of_declared inside isMember named owned (code.textOf site.node)
    have own : localDefinition? code.document.code? ⟨code.textOf site.node, site.span, some site⟩ =
        some found := by
      simp [localDefinition?, parsed, Code.declarationAtWord?, given]
    have defined : (findDefinition code.document position).result host = .ok (some found) := by
      simp only [findDefinition, touched, own, Work.result_pure]
    refine ⟨code.document, found.container, Query.locate_of_plain opened touched ?_ defined, ?_⟩
    · simp [CursorWord.isPropertyAccess, CursorWord.receiver?, noAccess]
    · rw [holds]
      exact findUsages_of_container touched rfl host
  | accessed receiver access resolved =>
    refine ⟨code.document, none, Query.locate_of_access opened touched ?_, ?_⟩
    · simp [CursorWord.isPropertyAccess, CursorWord.receiver?, access]
    · refine findUsages_of_container touched ?_ host
      simp [containerFor?, CursorWord.isPropertyAccess, CursorWord.receiver?, Code.receiverTypeOf?,
        parsed, access, resolved]

end Host.OnMember

namespace Workspace

variable {workspace : Workspace} {graph : ModuleGraph} {symbol container : String}

theorem exists_buildGraph (workspace : Workspace) :
    ∃ graph, buildGraph.result workspace.host = .ok graph := by
  obtain ⟨modules, read, _⟩ := readModules_result workspace.host
    (workspace.findFiles modulePatterns none) [] (by simp)
  exact ⟨⟨modules⟩, buildGraph_of_listed rfl read⟩

/-- Without scoping, a query on a name of a member is answered with the usages of the member. -/
theorem outcome_onMember (sound : workspace.host.Gives (·.tree.Sound))
    (apart : workspace.host.Gives Code.WordsApart)
    (built : buildGraph.result workspace.host = .ok graph) {path : String}
    {position : Position} (cursor : workspace.host.OnMember path position symbol container)
    (word : isWord symbol.toList = true) :
    (Query.mk .usages path position).outcome workspace.host false =
      .ok (.usages (workspace.usagesOf graph symbol (some container))) := by
  obtain ⟨document, given, located, search⟩ := cursor.locate_result sound apart word
  have found := (search (some graph) false).trans
    (workspace.search_unscoped graph document symbol (some container))
  have answered : ((Located.symbol document given).answer position (some graph) false).result
      workspace.host = .ok (.usages (workspace.usagesOf graph symbol (some container))) := by
    rw [Located.answer, Work.result_bind, found]
    rfl
  rw [Query.outcome, built]
  simp only [bind, Except.bind, located, answered]

theorem resolve_of_listed (working : Path)
    {patterns : List String} {file : String} (listed : file ∈ workspace.findFiles patterns none) :
    (working.resolve (.ofString file)).toString = file := by
  rw [findFiles_root] at listed
  obtain ⟨_, relative, bytes, entry, _, _, rfl⟩ := FileSystem.mem_filesBelow.mp listed
  have names := workspace.files.named _ entry
  rw [Path.ofString_toString names, Path.resolve_absolute _ names]

theorem exists_usage_iff (present : container ≠ "") {path : String} {range : Range} :
    (∃ usage ∈ workspace.usagesOf graph symbol (some container),
        usage.file = path ∧ usage.range = range) ↔
      path ∈ workspace.findFiles sourcePatterns none ∧ ∃ (code : Code) (site : Site),
        workspace.host.openDocument path = .ok code.document ∧ code.document.code? = some code ∧
        code.Mentions symbol (some container) site ∧ range = code.rangeOf site.node := by
  have kept : (some container).filter (· != "") = some container := by
    simp [Option.filter_some, present]
  simp only [mem_usagesOf_iff, kept]
  constructor
  · rintro ⟨_, ⟨file, listed, code, site, opened, parsed, mentions, rfl⟩, rfl, rfl⟩
    obtain rfl : code.document.path = file := (FileSystem.openDocument_ok opened).1
    exact ⟨listed, code, site, opened, parsed, mentions, rfl⟩
  · rintro ⟨listed, code, site, opened, parsed, mentions, rfl⟩
    have named : code.document.path = path := (FileSystem.openDocument_ok opened).1
    exact ⟨_, ⟨path, listed, code, site, opened, parsed, mentions, rfl⟩, named, rfl⟩

theorem onMember_of_usage (sound : workspace.host.Gives (·.tree.Sound))
    (apart : workspace.host.Gives Code.WordsApart) (word : isWord symbol.toList = true)
    (present : container ≠ "") {usage : Usage}
    (reported : usage ∈ workspace.usagesOf graph symbol (some container)) :
    usage.file ∈ workspace.findFiles sourcePatterns none ∧
      workspace.host.OnMember usage.file usage.range.start symbol container := by
  obtain ⟨listed, code, site, opened, parsed, mentions, range⟩ :=
    (exists_usage_iff present).mp ⟨usage, reported, rfl, rfl⟩
  have read := sound usage.file code.document code opened parsed
  have alone := mentions.apart (apart usage.file code.document code opened parsed) word
  rw [range]
  refine ⟨listed, code, site, opened, parsed, mentions.member, mentions.identifier, mentions.textOf_eq,
    ?_, mentions.touches_start parsed read word alone⟩
  obtain ⟨receiver, access, resolved⟩ := Code.refersTo_some.mp mentions.refers
  exact .accessed receiver access resolved

end Workspace

namespace Session

theorem ask_after_calls (host : Host) (working : Path) (capacity : Nat) (scoping : Bool)
    (calls : List Call) (kind : QueryKind) (file : String) (position : Position) :
    (((fresh working capacity scoping).after host calls).perform (ask host kind file position)).1 =
      (Query.mk kind (working.resolve (.ofString file)).toString position).outcome host scoping := by
  have start : Analyzer.Faithful host (fresh working capacity scoping).analyzer :=
    Analyzer.faithful_create host working capacity scoping
  obtain ⟨faithful, setting⟩ := after_faithful calls start
  obtain ⟨_, performed, _⟩ := ask_faithful faithful kind file position
  rw [performed, Analyzer.normalize, setting.working, setting.scoping]
  rfl

/-- Without scoping, queries on any two names of a member give the same usages, whatever was called
before; so do queries on these usages, which are the references to the member in the source files. Trees
are taken to be sound, and no identifier in them to touch another character of a word. -/
theorem member_usages_agree (workspace : Workspace)
    (sound : workspace.host.Gives (·.tree.Sound)) (apart : workspace.host.Gives Code.WordsApart)
    (working : Path) (capacity : Nat) (symbol container : String)
    (word : isWord symbol.toList = true) (file other : String) (position elsewhere : Position)
    (cursor : workspace.host.OnMember (working.resolve (.ofString file)).toString position symbol
      container)
    (another : workspace.host.OnMember (working.resolve (.ofString other)).toString elsewhere symbol
      container) :
    let usagesAt (calls : List Call) (file : String) (position : Position) : Except Failure Answer :=
      (((fresh working capacity false).after workspace.host calls).perform
        (ask workspace.host .usages file position)).1
    ∃ usages : List Usage,
      (∀ calls, usagesAt calls file position = .ok (.usages usages)) ∧
      (∀ calls, usagesAt calls other elsewhere = .ok (.usages usages)) ∧
      (∀ usage ∈ usages, ∀ calls,
        usagesAt calls usage.file usage.range.start = .ok (.usages usages)) ∧
      ∀ path range, (∃ usage ∈ usages, usage.file = path ∧ usage.range = range) ↔
        path ∈ workspace.findFiles sourcePatterns none ∧ ∃ (code : Code) (site : Site),
          workspace.host.openDocument path = .ok code.document ∧ code.document.code? = some code ∧
          code.Mentions symbol (some container) site ∧ range = code.rangeOf site.node := by
  intro usagesAt
  obtain ⟨graph, built⟩ := workspace.exists_buildGraph
  have answers {file : String} {position : Position} (named : workspace.host.OnMember
      (working.resolve (.ofString file)).toString position symbol container) (calls : List Call) :
      usagesAt calls file position =
        .ok (.usages (workspace.usagesOf graph symbol (some container))) :=
    (ask_after_calls workspace.host working capacity false calls .usages file position).trans
      (Workspace.outcome_onMember sound apart built named word)
  have present := cursor.container_ne_empty sound
  refine ⟨_, answers cursor, answers another, fun usage reported => ?_,
    fun path range => Workspace.exists_usage_iff present⟩
  obtain ⟨listed, named⟩ := Workspace.onMember_of_usage sound apart word present reported
  exact answers (by rwa [Workspace.resolve_of_listed working listed])

end Session

def Workspace.declaredAndUsed : Workspace where
  root := ⟨1, ["w"]⟩
  files :=
    let top := FileSystem.empty ⟨1, ["w"]⟩
    (top.insert ⟨1, ["w", "a.ts"]⟩ (.file (encode declaring.toList))).insert ⟨1, ["w", "b.ts"]⟩
      (.file (encode accessing.toList))
where
  declaring : String := "class A\x7bm()\x7b\x7d\x7d"
  accessing : String := "const a:A=x;a.m"

namespace Workspace

def declaring : Code :=
  ⟨.ofText "/w/a.ts" declaredAndUsed.declaring, parse .typescript declaredAndUsed.declaring.toList⟩

def accessing : Code :=
  ⟨.ofText "/w/b.ts" declaredAndUsed.accessing, parse .typescript declaredAndUsed.accessing.toList⟩

theorem declaredAndUsed_computed :
    (∀ text ∈ declaredAndUsed.files.texts, ∀ dialect ∈ [Dialect.typescript, .tsx],
      (parse dialect text).Sound ∧
        Code.WordsApart ⟨.ofText "" (String.ofList text), parse dialect text⟩) ∧
    ((declaring.tree.sites []).any fun site => site.kind.isIdentifier &&
      declaring.textOf site.node == "m" && declaring.rangeOf site.node == ⟨⟨0, 8⟩, ⟨0, 9⟩⟩ &&
      site.parent?.any fun declaration => (declaration.kind.isMethod || declaration.kind.isField) &&
        declaration.node.holds .name site.node && declaring.ownerName? declaration == some "A") =
      true ∧
    ((accessing.tree.sites []).any fun site => site.kind.isIdentifier &&
      accessing.textOf site.node == "m" && accessing.rangeOf site.node == ⟨⟨0, 14⟩, ⟨0, 15⟩⟩ &&
      (Code.memberReceiver? site).any fun receiver =>
        accessing.receiverType? ((accessing.tree.sites []).filterMap accessing.annotated?) receiver ==
          some "A") = true := by
  decide +kernel

theorem onMember_declaring : declaredAndUsed.host.OnMember "/w/a.ts" ⟨0, 8⟩ "m" "A" := by
  obtain ⟨site, member, properties⟩ := List.any_eq_true.mp declaredAndUsed_computed.2.1
  simp only [Bool.and_eq_true, beq_iff_eq, Option.any_eq_true] at properties
  obtain ⟨⟨⟨identifier, text⟩, range⟩, declaration, inside, ⟨isMember, named⟩, owned⟩ := properties
  rw [← declaring.walk_eq] at member
  refine ⟨declaring, site, rfl, Document.code?_ofText (by decide) _, member, identifier, text,
    .declared declaration inside isMember named owned, ?_⟩
  rw [range]
  exact ⟨by decide, by decide⟩

theorem onMember_accessing : declaredAndUsed.host.OnMember "/w/b.ts" ⟨0, 15⟩ "m" "A" := by
  obtain ⟨site, member, properties⟩ := List.any_eq_true.mp declaredAndUsed_computed.2.2
  simp only [Bool.and_eq_true, beq_iff_eq, Option.any_eq_true] at properties
  obtain ⟨⟨⟨identifier, text⟩, range⟩, receiver, access, resolved⟩ := properties
  rw [← accessing.walk_eq] at member
  rw [← accessing.annotations_eq] at resolved
  refine ⟨accessing, site, rfl, Document.code?_ofText (by decide) _, member, identifier, text,
    .accessed receiver access resolved, ?_⟩
  rw [range]
  exact ⟨by decide, by decide⟩

end Workspace

/-- The method is asked for at its declaration and, in another file, at the end of an access to it. -/
theorem Session.member_usages_agree_declaredAndUsed :
    let workspace := Workspace.declaredAndUsed
    let usagesAt (calls : List Call) (file : String) (position : Position) : Except Failure Answer :=
      (((fresh ⟨1, ["w"]⟩ 8 false).after workspace.host calls).perform
        (ask workspace.host .usages file position)).1
    workspace.host.OnMember "/w/a.ts" ⟨0, 8⟩ "m" "A" ∧
      workspace.host.OnMember "/w/b.ts" ⟨0, 15⟩ "m" "A" ∧ ∃ usages : List Usage,
        (∀ calls, usagesAt calls "a.ts" ⟨0, 8⟩ = .ok (.usages usages)) ∧
        (∀ calls, usagesAt calls "/w/b.ts" ⟨0, 15⟩ = .ok (.usages usages)) ∧
        (∀ usage ∈ usages, ∀ calls,
          usagesAt calls usage.file usage.range.start = .ok (.usages usages)) ∧
        ∀ path range, (∃ usage ∈ usages, usage.file = path ∧ usage.range = range) ↔
          path ∈ workspace.findFiles sourcePatterns none ∧ ∃ (code : Code) (site : Site),
            workspace.host.openDocument path = .ok code.document ∧ code.document.code? = some code ∧
            code.Mentions "m" (some "A") site ∧ range = code.rangeOf site.node := by
  intro workspace usagesAt
  have first : (Path.resolve ⟨1, ["w"]⟩ (.ofString "a.ts")).toString = "/w/a.ts" := by decide
  have second : (Path.resolve ⟨1, ["w"]⟩ (.ofString "/w/b.ts")).toString = "/w/b.ts" := by
    decide
  refine ⟨Workspace.onMember_declaring, Workspace.onMember_accessing, ?_⟩
  obtain ⟨sound, words⟩ :=
    Workspace.sound_and_wordsApart_of_texts Workspace.declaredAndUsed_computed.1
  exact member_usages_agree workspace sound words ⟨1, ["w"]⟩ 8 "m" "A" (by decide) "a.ts" "/w/b.ts"
    ⟨0, 8⟩ ⟨0, 15⟩ (first ▸ Workspace.onMember_declaring) (second ▸ Workspace.onMember_accessing)

end ModuleScope
