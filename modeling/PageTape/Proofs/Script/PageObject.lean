import Mathlib.Data.List.Nodup
import PageTape.Proofs.Script.WellFormed

/-!
# When a page object is a valid class

What a reader finds in the class that a script ends with: the constructor, the getters and the methods with their
parameters (`membersOf`).  A class is valid if its members and the properties that its constructor declares have names
of their own, all names are identifiers and no method has two parameters of one name (`IsValidClass`).

The names of the getters are made from labels and field types, and nothing else is seen to.  They are of ASCII letters
and digits, and the class is valid exactly where no two fields share a name and no name begins with a digit or is one
that the class needs itself (`page_object_valid_iff`).
-/

namespace PageTape.Script

open RecordingFile (Material)

/-! ### What a reader finds in a class -/

/-- A member of a class: its name and the names of its parameters. -/
structure Member where
  name : List Char
  params : List (List Char) := []
  deriving DecidableEq, Repr

/-- The name that a parameter declares: the last word before its type. -/
def paramName (cs : List Char) : List Char := ((cs.takeWhile (· != ':')).reverse.takeWhile (· != ' ')).reverse

/-- The names that the parameters between commas declare. -/
def paramNames (cs : List Char) : List (List Char) := ((cs.splitOn ',').map paramName).filter (!·.isEmpty)

/-- The member that is declared by a name and parameters between parentheses. -/
def Member.ofSignature (cs : List Char) : Member where
  name := cs.takeWhile (· != '(')
  params := paramNames (((cs.dropWhile (· != '(')).drop 1).takeWhile (· != ')'))

/-- The member that a line of a class declares. -/
def member? (line : List Token) : Option Member :=
  if "  get ".toList.isPrefixOf (headCode line) then some (.ofSignature ((headCode line).drop 6))
  else if "  async ".toList.isPrefixOf (headCode line) then some (.ofSignature ((headCode line).drop 8))
  else if "  constructor(".toList.isPrefixOf (headCode line) then some (.ofSignature ((headCode line).drop 2))
  else none

/-- A line begins a class. -/
def beginsClass (line : List Token) : Bool := "export class ".toList.isPrefixOf (headCode line)

/-- **The members of the class that a script ends with**, in order. -/
def membersOf (lines : List (List Token)) : List Member := (lines.dropWhile (!beginsClass ·)).filterMap member?

/-- The name of a constructor. -/
def constructorName : List Char := "constructor".toList

/-- The names of members, and of the properties that a constructor declares with its parameters. -/
def propertyNames (members : List Member) : List (List Char) :=
  members.map Member.name ++ (members.filter (·.name == constructorName)).flatMap Member.params

/-- **A valid class**: no two members and properties share a name, all names are identifiers, and no two parameters of a
member share a name. -/
structure IsValidClass (members : List Member) : Prop where
  distinct : (propertyNames members).Nodup
  names : ∀ m ∈ members, isIdentifier m.name = true
  params : ∀ m ∈ members, (∀ p ∈ m.params, isIdentifier p = true) ∧ m.params.Nodup

/-! ### Reading names and members -/

section Reading

variable {sp : Spelling} {cs params rest : List Char} {names : List String}

/-- A name of letters, digits and low lines is an identifier if it does not begin with a digit. -/
lemma isIdentifier_iff (h : cs.all Text.isSnakeChar = true) (hne : cs ≠ []) :
    isIdentifier cs = true ↔ cs.head?.any Char.isDigit = false := by
  cases cs with
  | nil => exact absurd rfl hne
  | cons c rest =>
    rw [List.all_cons, Bool.and_eq_true] at h
    have hletter : (c.isAlpha || c == '_') = !c.isDigit := by
      have hsnake := h.1
      simp only [Text.isSnakeChar, Char.isAlphanum] at hsnake
      cases hdigit : c.isDigit with
      | false => simpa [hdigit] using hsnake
      | true =>
        have hbounds := Text.isDigit_iff.1 hdigit
        have hlow : c ≠ '_' := by
          rintro rfl
          cases hdigit
        have hletter : ¬ c.isAlpha = true := by
          rw [Text.isAlpha_iff, Text.isUpper_iff, Text.isLower_iff]
          omega
        rw [Bool.eq_false_iff.2 hletter, beq_false_of_ne hlow]
        rfl
    rw [isIdentifier, hletter, h.2, Bool.and_true, List.head?_cons, Option.any_some, Bool.not_eq_true']

lemma not_mem_of_snake (h : cs.all Text.isSnakeChar = true) {c : Char} (hc : Text.isSnakeChar c = false) : c ∉ cs := by
  intro hmem
  rw [List.all_eq_true.1 h c hmem] at hc
  cases hc

lemma ne_of_snake (h : cs.all Text.isSnakeChar = true) {c : Char} (hc : Text.isSnakeChar c = false) :
    ∀ d ∈ cs, (d != c) = true := by
  intro d hd
  rw [bne_iff_ne]
  rintro rfl
  exact not_mem_of_snake h hc hd

lemma ofSignature_eq (hname : cs.all Text.isSnakeChar = true) (hparams : ')' ∉ params) :
    Member.ofSignature (cs ++ '(' :: (params ++ ')' :: rest)) = ⟨cs, paramNames params⟩ := by
  have hchars : ∀ c ∈ cs, (c != '(') = true := ne_of_snake hname (by decide)
  have hinner : ∀ c ∈ params, (c != ')') = true := by
    intro c hc
    rw [bne_iff_ne]
    rintro rfl
    exact hparams hc
  have htake : (cs ++ '(' :: (params ++ ')' :: rest)).takeWhile (· != '(') = cs := by
    rw [List.takeWhile_append_of_pos hchars]
    simp
  have hdrop : ((cs ++ '(' :: (params ++ ')' :: rest)).dropWhile (· != '(')).drop 1 = params ++ ')' :: rest := by
    rw [List.dropWhile_append_of_pos hchars]
    simp
  have hparams : (params ++ ')' :: rest).takeWhile (· != ')') = params := by
    rw [List.takeWhile_append_of_pos hinner]
    simp
  rw [Member.ofSignature, htake, hdrop, hparams]

lemma paramName_eq {lead : List Char} (hlead : ∀ c ∈ lead, c = ' ') (h : cs.all Text.isSnakeChar = true) :
    paramName (lead ++ (cs ++ ':' :: rest)) = cs := by
  have hbefore : ∀ c ∈ lead ++ cs, (c != ':') = true := by
    refine List.forall_mem_append.2 ⟨fun c hc => ?_, ne_of_snake h (by decide)⟩
    rw [hlead c hc]
    rfl
  have hword : ∀ c ∈ cs.reverse, (c != ' ') = true := fun c hc => ne_of_snake h (by decide) c (List.mem_reverse.1 hc)
  have hstop : lead.reverse.takeWhile (· != ' ') = [] := by
    rw [List.takeWhile_eq_nil_iff]
    intro hlen
    simp [hlead _ (List.mem_reverse.1 (List.getElem_mem hlen))]
  rw [paramName, ← List.append_assoc, List.takeWhile_append_of_pos hbefore, List.takeWhile_cons_of_neg (by simp),
    List.append_nil, List.reverse_append, List.takeWhile_append_of_pos hword, hstop, List.append_nil,
    List.reverse_reverse]

/-- The parameters of a method, each with its type. -/
def typed (names : List String) : String := ", ".intercalate (names.map (· ++ ": string"))

/-- One parameter holds no comma, and its name is read behind blanks. -/
lemma param_behind {n : String} {lead : List Char} (hlead : ∀ c ∈ lead, c = ' ')
    (hn : n.toList.all Text.isSnakeChar = true) :
    ',' ∉ lead ++ (n ++ ": string").toList ∧ paramName (lead ++ (n ++ ": string").toList) = n.toList := by
  have htext : (n ++ ": string").toList = n.toList ++ ':' :: " string".toList := by
    rw [String.toList_append]
    rfl
  have hcomma : ',' ∉ lead := fun hmem => absurd (hlead _ hmem) (by decide)
  have hnot : ',' ∉ n.toList := not_mem_of_snake hn (by decide)
  rw [htext]
  exact ⟨by simp [hcomma, hnot], paramName_eq hlead hn⟩

lemma paramNames_behind {n : String} {lead : List Char} (hlead : ∀ c ∈ lead, c = ' ')
    (h : ∀ m ∈ n :: names, m.toList.all Text.isSnakeChar = true ∧ m ≠ "") :
    paramNames (lead ++ (typed (n :: names)).toList) = (n :: names).map String.toList := by
  induction names generalizing n lead with
  | nil =>
    obtain ⟨hn, hne⟩ := h n List.mem_cons_self
    obtain ⟨hcomma, hname⟩ := param_behind hlead hn
    have htyped : typed [n] = n ++ ": string" := by simp [typed]
    rw [htyped, paramNames, List.splitOn_eq_singleton hcomma, List.map_singleton, hname]
    exact List.filter_cons_of_pos (by simpa using hne)
  | cons m more ih =>
    obtain ⟨⟨hn, hne⟩, hrest⟩ := List.forall_mem_cons.1 h
    obtain ⟨hcomma, hname⟩ := param_behind hlead hn
    have htyped : lead ++ (typed (n :: m :: more)).toList =
        (lead ++ (n ++ ": string").toList) ++ ',' :: ([' '] ++ (typed (m :: more)).toList) := by
      rw [typed, List.map_cons, List.map_cons, String.intercalate_cons_cons]
      simp [typed]
    have hmore : paramNames ([' '] ++ (typed (m :: more)).toList) = (m :: more).map String.toList := ih (by simp) hrest
    rw [htyped, paramNames, List.splitOn_append_cons_self_of_not_mem hcomma, List.map_cons, hname,
      List.filter_cons_of_pos (by simpa using hne), List.map_cons, ← hmore]
    rfl

/-- The names of parameters are read back. -/
lemma paramNames_typed (h : ∀ n ∈ names, n.toList.all Text.isSnakeChar = true ∧ n ≠ "") :
    paramNames (typed names).toList = names.map String.toList := by
  cases names with
  | nil => rfl
  | cons n rest => exact paramNames_behind (List.forall_mem_nil (· = ' ')) h

end Reading

/-! ### The class of a page object -/

namespace Playwright

section PageObject

variable {o : Options} {a : Action} {actions : List Action} {sp : Spelling}

/-- The names of the fields: those that a page object has a getter for. -/
def fieldNames (actions : List Action) : List String := (actions.filter fun a => !a.kind.submits).map property

/-- The names of the parameters of the method that fills the form. -/
def fillParams (actions : List Action) : List String :=
  ((actions.filter fun a => !a.kind.submits).filter fun a => a.kind == .fill).map fun a => property a ++ "Value"

/-- The names that the class needs itself: those of its constructor, of the page and of its methods, and that of the
button if there is an action that submits. -/
def ownNames (actions : List Action) : List String :=
  ["constructor", "page", "fillForm"] ++ if actions.any (·.kind.submits) then ["submitButton", "submit"] else []

/-- The members of a page object. -/
def membersFor (actions : List Action) : List Member :=
  [⟨constructorName, ["page".toList]⟩] ++ (fieldNames actions).map (fun n => ⟨n.toList, []⟩)
    ++ (if actions.any (·.kind.submits) then [⟨"submitButton".toList, []⟩] else [])
    ++ [⟨"fillForm".toList, (fillParams actions).map String.toList⟩]
    ++ if actions.any (·.kind.submits) then [⟨"submit".toList, []⟩] else []

lemma orText_ne {s : Option String} {other : String} (h : other ≠ "") : orText s other ≠ "" := by
  unfold orText
  cases hs : nonempty? s with
  | none => exact h
  | some t =>
    cases s with
    | none => cases hs
    | some u =>
      rw [nonempty?] at hs
      split at hs
      · cases hs
      · rename_i hne
        obtain rfl := Option.some.inj hs
        simpa using hne

lemma property_name (a : Action) : (property a).toList.all Text.isSnakeChar = true ∧ property a ≠ "" :=
  ⟨orText_all (camelCase_all _) (by decide), orText_ne (by decide)⟩

/-- The head of a line of program text. -/
lemma headCode_ofCode {t : String} : headCode (sp.lineTokens (.ofCode t)) = t.toList := by
  rw [lineTokens_ofCode, ← List.append_nil (List.map _ _), headCode_append]
  exact List.append_nil _

lemma member?_getter {name : String} (hname : name.toList.all Text.isSnakeChar = true) (selector : String) :
    member? (sp.lineTokens (getter name selector)) = some ⟨name.toList, []⟩ := by
  have hhead : headCode (sp.lineTokens (getter name selector)) =
      "  get ".toList ++ (name.toList ++ '(' :: ([] ++ ')' :: " \x7b return this.page.locator(".toList)) := by
    have htokens : sp.lineTokens (getter name selector) = (s!"  get {name}() \x7b return this.page.locator(").toList.map
        .code ++ (.literal selector :: sp.tokens [.code "); \x7d"]) := by
      simp [getter, Spelling.lineTokens, Spelling.tokens, Spelling.said, Spelling.remark?]
    rw [htokens, headCode_append, String.toList_append, String.toList_append, List.append_assoc, List.append_assoc]
    rfl
  rw [member?, hhead, if_pos (by simp)]
  exact congrArg some (ofSignature_eq hname (by simp))

lemma member?_fillForm (sp : Spelling) {names : List String} (h : ∀ n ∈ names, n.toList.all Text.isSnakeChar = true ∧ n ≠ "") :
    member? (sp.lineTokens (.ofCode s!"  async fillForm({typed names}) \x7b")) =
      some ⟨"fillForm".toList, names.map String.toList⟩ := by
  have hhead : (s!"  async fillForm({typed names}) \x7b").toList =
      "  async ".toList ++ ("fillForm".toList ++ '(' :: ((typed names).toList ++ ')' :: " \x7b".toList)) := by
    rw [String.toList_append, String.toList_append, List.append_assoc]
    rfl
  have hclose : ')' ∉ (typed names).toList := by
    have hall : (typed names).toList.all (· != ')') = true := by
      refine all_intercalate rfl fun t ht => ?_
      obtain ⟨n, hn, rfl⟩ := List.mem_map.1 ht
      have hname : n.toList.all (· != ')') = true := List.all_eq_true.2 (ne_of_snake (h n hn).1 (by decide))
      rw [String.toList_append, List.all_append, hname]
      rfl
    intro hmem
    exact absurd (List.all_eq_true.1 hall _ hmem) (by decide)
  rw [member?, headCode_ofCode, hhead, if_neg (by simp), if_pos (by simp)]
  rw [show ("  async ".toList ++ ("fillForm".toList ++ '(' :: ((typed names).toList ++ ')' :: " \x7b".toList))).drop 8 =
    "fillForm".toList ++ '(' :: ((typed names).toList ++ ')' :: " \x7b".toList) from rfl,
    ofSignature_eq (by decide) hclose, paramNames_typed h]

/-- A line within a method is no member. -/
lemma member?_inner {t : String} (h : "    ".toList.isPrefixOf t.toList = true) :
    member? (sp.lineTokens (.ofCode t)) = none := by
  obtain ⟨rest, hrest⟩ := List.isPrefixOf_iff_prefix.1 h
  rw [member?, headCode_ofCode, ← hrest]
  simp

/-- The parameters that are written are those of the fields that are filled. -/
lemma params_eq (actions : List Action) :
    params ((actions.filter fun a => !a.kind.submits).filter fun a => a.kind == .fill) = typed (fillParams actions) := by
  rw [params, typed, fillParams, List.map_map]
  have htyped : ∀ a : Action, property a ++ "Value: string" = property a ++ "Value" ++ ": string" := fun a => by
    rw [String.append_assoc, show "Value" ++ ": string" = "Value: string" by decide]
  simp only [htyped, Function.comp_def]

/-- The members are read in the lines of a page object. -/
lemma members_pageObject (sp : Spelling) (o : Options) (actions : List Action) :
    ((pageObject o actions).map sp.lineTokens).filterMap member? = membersFor actions := by
  have hgetters : ∀ fields : List Action, ((fields.map fun a => getter (property a) (actionSelector o a)).map
      sp.lineTokens).filterMap member? = (fields.map property).map fun n => ⟨n.toList, []⟩ := by
    intro fields
    induction fields with
    | nil => rfl
    | cons a rest ih =>
      rw [List.map_cons, List.map_cons, List.filterMap_cons_some (member?_getter (property_name a).1 _), ih]
      rfl
  have hfills : ∀ fills : List Action, ((fills.map fun a => Line.ofCode
      s!"    await this.{property a}.fill({property a}Value);").map sp.lineTokens).filterMap member? = [] := by
    intro fills
    rw [List.filterMap_eq_nil_iff]
    intro line hline
    rw [List.map_map] at hline
    obtain ⟨a, -, rfl⟩ := List.mem_map.1 hline
    refine member?_inner ?_
    simp only [String.toList_append]
    rfl
  have hfill : ∀ n ∈ fillParams actions, n.toList.all Text.isSnakeChar = true ∧ n ≠ "" := by
    intro n hn
    obtain ⟨a, -, rfl⟩ := List.mem_map.1 hn
    rw [String.toList_append, List.all_append, (property_name a).1]
    exact ⟨rfl, fun hempty => (property_name a).2 (String.append_eq_empty_iff.1 hempty).1⟩
  have hhead : (([{ pieces := [.code "import type \x7b Page \x7d from ", .literal "@playwright/test", .code ";"] },
      .blank, .ofCode "export class FormPage \x7b", .ofCode "  constructor(private readonly page: Page) \x7b\x7d", .blank] :
        List Line).map sp.lineTokens).filterMap member? = [⟨constructorName, ["page".toList]⟩] := by
    simp only [List.map_cons, List.map_nil]
    rfl
  have hclose : (([.ofCode "  \x7d"] : List Line).map sp.lineTokens).filterMap member? = [] := rfl
  have hend : (([.ofCode "\x7d"] : List Line).map sp.lineTokens).filterMap member? = [] := rfl
  have hmethod : ∀ fills, params fills = typed (fillParams actions) →
      (([.blank, .ofCode s!"  async fillForm({params fills}) \x7b"] : List Line).map sp.lineTokens).filterMap member? =
        [⟨"fillForm".toList, (fillParams actions).map String.toList⟩] := by
    intro fills hparams
    rw [hparams, List.map_cons, List.map_singleton, List.filterMap_cons_none rfl,
      List.filterMap_cons_some (member?_fillForm sp hfill)]
    rfl
  have hfields := hgetters (actions.filter fun a => !a.kind.submits)
  unfold pageObject membersFor
  cases hfind : actions.find? (·.kind.submits) with
  | none =>
    have hany : actions.any (·.kind.submits) = false := by
      rw [List.any_eq_false]
      exact List.find?_eq_none.1 hfind
    dsimp only
    simp only [List.map_append, List.filterMap_append, hany, hhead, hfields, hfills, hclose, hend, List.append_nil,
      Bool.false_eq_true, if_false]
    exact congrArg _ (hmethod _ (params_eq actions))
  | some a =>
    have hany : actions.any (·.kind.submits) = true := by
      rw [List.any_eq_true]
      exact ⟨a, List.mem_of_find?_eq_some hfind, by simpa using List.find?_some hfind⟩
    have hbutton : (([getter "submitButton" (actionSelector o a)] : List Line).map sp.lineTokens).filterMap member? =
        [⟨"submitButton".toList, []⟩] := List.filterMap_cons_some (member?_getter (by decide) _)
    have hsubmit : (([.blank, .ofCode "  async submit() \x7b", .ofCode "    await this.submitButton.click();",
        .ofCode "  \x7d"] : List Line).map sp.lineTokens).filterMap member? = [⟨"submit".toList, []⟩] := by
      simp only [List.map_cons, List.map_nil]
      rfl
    dsimp only
    simp only [List.map_append, List.filterMap_append, hany, hhead, hfields, hfills, hclose, hend, hbutton, hsubmit,
      List.append_nil, if_true]
    exact congrArg (· ++ _) (congrArg _ (hmethod _ (params_eq actions)))

/-! ### The class in a script -/

lemma beginsClass_inner {l : Line} (h : playwright.IsInner l) : beginsClass (sp.lineTokens l) = false := by
  rcases h with rfl | hmargin
  · rfl
  · rw [Spelling.lineTokens, hmargin]
    rfl

lemma beginsClass_test {name : String} {body : List Line} (h : ∀ l ∈ body, playwright.IsInner l) :
    ∀ l ∈ test name body, beginsClass (sp.lineTokens l) = false := by
  refine List.forall_mem_append.2 ⟨List.forall_mem_append.2 ⟨?_, fun l hl => beginsClass_inner (h l hl)⟩, ?_⟩
  · exact List.forall_mem_singleton.2 rfl
  · exact List.forall_mem_singleton.2 rfl

/-- The members of a page object are read behind lines that begin no class. -/
lemma membersOf_append {ls : List Line} (h : ∀ l ∈ ls, beginsClass (sp.lineTokens l) = false) (o : Options)
    (actions : List Action) : membersOf ((ls ++ pageObject o actions).map sp.lineTokens) = membersFor actions := by
  have hbefore : ∀ line ∈ ls.map sp.lineTokens, (!beginsClass line) = true := by
    intro line hline
    obtain ⟨l, hl, rfl⟩ := List.mem_map.1 hline
    rw [h l hl]
    rfl
  obtain ⟨rest, hrest⟩ : ∃ rest, pageObject o actions =
      { pieces := [.code "import type \x7b Page \x7d from ", .literal "@playwright/test", .code ";"] } :: .blank ::
        .ofCode "export class FormPage \x7b" :: rest := ⟨_, rfl⟩
  rw [← members_pageObject sp o actions, membersOf, List.map_append, List.dropWhile_append_of_pos hbefore, hrest]
  rfl

/-- The members are read in the lines of a script. -/
lemma members_script (o : Options) (m : Material) (ho : o.includePageObject = true) :
    membersOf ((playwright.linesFor o m).map playwright.spelling.lineTokens) = membersFor (actionsOf m) := by
  have hfinish : ∀ (body : List Line) (fromRecording : Bool), (∀ l ∈ body, playwright.IsInner l) →
      membersOf ((playwright.finish o body (actionsOf m) fromRecording).map playwright.spelling.lineTokens) =
        membersFor (actionsOf m) := by
    intro body fromRecording hbody
    show membersOf ((file _).map _) = _
    unfold file
    dsimp only
    rw [if_pos ho, ← List.append_assoc]
    refine membersOf_append ?_ o (actionsOf m)
    refine List.forall_mem_append.2 ⟨List.forall_mem_append.2 ⟨List.forall_mem_append.2 ⟨List.forall_mem_append.2
      ⟨?_, ?_⟩, beginsClass_test hbody⟩, ?_⟩, ?_⟩
    · exact List.forall_mem_cons.2 ⟨rfl, List.forall_mem_singleton.2 rfl⟩
    · -- the description
      split
      · exact List.forall_mem_singleton.2 rfl
      · simp
    · -- the test of required fields
      split
      · rename_i negative hsome
        have hinner : playwright.negativeBody o (actionsOf m) = some negative := by
          split at hsome
          · exact hsome
          · cases hsome
        exact List.forall_mem_cons.2 ⟨rfl, beginsClass_test (inner_negative hinner)⟩
      · simp
    · exact List.forall_mem_cons.2 ⟨rfl, List.forall_mem_singleton.2 rfl⟩
  cases m with
  | steps steps => exact hfinish _ true (inner_body (m := .steps steps))
  | actions actions => exact hfinish _ false (inner_body (m := .actions actions))

/-! ### Validity -/

/-- **Fields with names of their own**: no two share one, none begins with a digit, and none has a name that the class
needs itself. -/
structure NamedApart (actions : List Action) : Prop where
  distinct : (fieldNames actions).Nodup
  letter : ∀ name ∈ fieldNames actions, name.toList.head?.any Char.isDigit = false
  own : ∀ name ∈ fieldNames actions, name ∉ ownNames actions

lemma ownNames_nodup (actions : List Action) : (ownNames actions).Nodup := by
  unfold ownNames
  cases actions.any (·.kind.submits) <;> decide

lemma mem_fieldNames {name : String} (h : name ∈ fieldNames actions) :
    name.toList.all Text.isSnakeChar = true ∧ name ≠ "" := by
  obtain ⟨a, -, rfl⟩ := List.mem_map.1 h
  exact property_name a

/-- What the constructor declares is the page. -/
lemma constructor_params (actions : List Action) :
    ((membersFor actions).filter (·.name == constructorName)).flatMap Member.params = ["page".toList] := by
  have hgetters : ∀ names : List String, ((names.map fun n => (⟨n.toList, []⟩ : Member)).filter
      (·.name == constructorName)).flatMap Member.params = [] := by
    intro names
    rw [List.flatMap_eq_nil_iff]
    intro member hmember
    obtain ⟨n, -, rfl⟩ := List.mem_map.1 (List.mem_of_mem_filter hmember)
    rfl
  have hfill : ("fillForm".toList == constructorName) = false := by decide
  have hbutton : ("submitButton".toList == constructorName) = false := by decide
  have hsubmit : ("submit".toList == constructorName) = false := by decide
  unfold membersFor
  cases actions.any (·.kind.submits) <;>
    simp only [List.filter_append, List.flatMap_append, hgetters, List.filter_singleton, hfill, hbutton, hsubmit,
      BEq.rfl, if_true, Bool.false_eq_true, if_false, cond_true, cond_false, List.flatMap_singleton, List.append_nil]

lemma perm_own {α : Type} (constructor page form button submit : α) (fields : List α) (submits : Bool) :
    ([constructor] ++ fields ++ (if submits then [button] else []) ++ [form] ++ (if submits then [submit] else [])
      ++ [page]).Perm (fields ++ ([constructor, page, form] ++ if submits then [button, submit] else [])) := by
  classical
  rw [List.perm_iff_count]
  intro name
  cases submits <;>
    simp only [List.count_append, List.count_cons, List.count_nil, if_true, if_false, Bool.false_eq_true] <;> omega

/-- The names of a page object are those of the fields and its own. -/
lemma propertyNames_perm (actions : List Action) :
    (propertyNames (membersFor actions)).Perm ((fieldNames actions ++ ownNames actions).map String.toList) := by
  have hnames : ((fieldNames actions).map fun n => (⟨n.toList, []⟩ : Member)).map Member.name =
      (fieldNames actions).map String.toList := by
    rw [List.map_map]
    rfl
  have hperm := perm_own constructorName "page".toList "fillForm".toList "submitButton".toList "submit".toList
    ((fieldNames actions).map String.toList) (actions.any (·.kind.submits))
  rw [propertyNames, constructor_params]
  unfold membersFor ownNames
  simp only [List.map_append, hnames]
  cases hany : actions.any (·.kind.submits) <;> rw [hany] at hperm <;> exact hperm

/-- The names of the parameters begin like those of their fields. -/
lemma isIdentifier_param (h : ∀ name ∈ fieldNames actions, name.toList.head?.any Char.isDigit = false) :
    ∀ p ∈ (fillParams actions).map String.toList, isIdentifier p = true := by
  intro p hp
  obtain ⟨n, hn, rfl⟩ := List.mem_map.1 hp
  obtain ⟨a, ha, rfl⟩ := List.mem_map.1 hn
  obtain ⟨hsnake, hne⟩ := property_name a
  obtain ⟨c, cs, hcs⟩ := List.exists_cons_of_ne_nil (mt String.toList_eq_nil_iff.1 hne)
  have hhead := h (property a) (List.mem_map_of_mem (List.mem_of_mem_filter ha))
  have htext : (property a ++ "Value").toList = (c :: cs) ++ "Value".toList := by rw [String.toList_append, hcs]
  have hall : ((c :: cs) ++ "Value".toList).all Text.isSnakeChar = true := by
    rw [← hcs, List.all_append, hsnake]
    rfl
  rw [hcs] at hhead
  rw [htext]
  exact (isIdentifier_iff hall (List.cons_ne_nil _ _)).2 hhead

lemma fillParams_nodup (h : (fieldNames actions).Nodup) : ((fillParams actions).map String.toList).Nodup := by
  have hfills : (((actions.filter fun a => !a.kind.submits).filter fun a => a.kind == .fill).map property).Nodup :=
    h.sublist (List.filter_sublist.map property)
  have hparams : fillParams actions =
      (((actions.filter fun a => !a.kind.submits).filter fun a => a.kind == .fill).map property).map (· ++ "Value") := by
    rw [fillParams, List.map_map]
    rfl
  rw [hparams, List.map_map]
  refine List.Nodup.map (fun n m heq => ?_) hfills
  have htext : n.toList ++ "Value".toList = m.toList ++ "Value".toList := by simpa using heq
  exact String.toList_inj.1 (List.append_cancel_right htext)

/-- A page object is a valid class exactly where its fields have names of their own. -/
lemma isValid_iff (actions : List Action) : IsValidClass (membersFor actions) ↔ NamedApart actions := by
  have hdistinct : (propertyNames (membersFor actions)).Nodup ↔
      (fieldNames actions).Nodup ∧ ∀ name ∈ fieldNames actions, name ∉ ownNames actions := by
    rw [(propertyNames_perm actions).nodup_iff, List.nodup_map_iff fun _ _ => String.toList_inj.1, List.nodup_append']
    exact ⟨fun ⟨hfields, _, hdisjoint⟩ => ⟨hfields, hdisjoint⟩,
      fun ⟨hfields, hown⟩ => ⟨hfields, ownNames_nodup actions, hown⟩⟩
  have hletter : ∀ name ∈ fieldNames actions,
      (isIdentifier name.toList = true ↔ name.toList.head?.any Char.isDigit = false) := by
    intro name hname
    obtain ⟨hsnake, hne⟩ := mem_fieldNames hname
    exact isIdentifier_iff hsnake (mt String.toList_eq_nil_iff.1 hne)
  constructor
  · intro h
    obtain ⟨hnodup, hown⟩ := hdistinct.1 h.distinct
    refine ⟨hnodup, fun name hname => (hletter name hname).1 (h.names ⟨name.toList, []⟩ ?_), hown⟩
    have hgetter : (⟨name.toList, []⟩ : Member) ∈ (fieldNames actions).map fun n => ⟨n.toList, []⟩ :=
      List.mem_map_of_mem hname
    simp only [membersFor, List.mem_append, hgetter, or_true, true_or]
  · intro h
    have hmembers : ∀ member ∈ membersFor actions, isIdentifier member.name = true ∧
        (∀ p ∈ member.params, isIdentifier p = true) ∧ member.params.Nodup := by
      intro member hmember
      simp only [membersFor, List.mem_append, List.mem_singleton, List.mem_map] at hmember
      rcases hmember with (((rfl | ⟨name, hname, rfl⟩) | hbutton) | rfl) | hsubmit
      · exact ⟨by decide, by decide, by decide⟩
      · exact ⟨(hletter name hname).2 (h.letter name hname), by simp, List.nodup_nil⟩
      · split at hbutton
        · rw [List.mem_singleton.1 hbutton]
          exact ⟨by decide, by simp, List.nodup_nil⟩
        · cases hbutton
      · exact ⟨rfl, isIdentifier_param h.letter, fillParams_nodup h.distinct⟩
      · split at hsubmit
        · rw [List.mem_singleton.1 hsubmit]
          exact ⟨by decide, by simp, List.nodup_nil⟩
        · cases hsubmit
    exact ⟨hdistinct.2 ⟨h.distinct, h.own⟩, fun member hmember => (hmembers member hmember).1,
      fun member hmember => (hmembers member hmember).2⟩

end PageObject

end Playwright

open Playwright (NamedApart membersFor)

/-- The class of a script is read with the members that its actions have. -/
lemma read_pageObject (o : Options) (m : Material) (ho : o.includePageObject = true) :
    ∃ lines, javaScript.read (playwright.scriptFor o m) = some lines ∧ membersOf lines = membersFor (actionsOf m) := by
  obtain ⟨lines, hread⟩ := playwrightVoice_sound.isRead (o := o) (m := m) fun _ _ => not_closes rfl
  have hwritten : lines = (playwright.linesFor o m).map playwright.spelling.lineTokens := hread.written
  refine ⟨lines, hread.read, ?_⟩
  rw [hwritten]
  exact Playwright.members_script o m ho

/-- **When a page object is a valid class.**  For all options that ask for one and all steps or actions, the script is
read, in its class are found the constructor with the page, a getter for each field and for the button, and the methods
with their parameters, and the class is valid exactly where the names that the fields get from their labels and types
are distinct, begin with no digit and are none that the class needs itself. -/
theorem page_object_valid_iff (o : Options) (m : Material) (ho : o.includePageObject = true) :
    ∃ lines, javaScript.read (playwright.scriptFor o m) = some lines ∧ membersOf lines = membersFor (actionsOf m) ∧
      (IsValidClass (membersOf lines) ↔ NamedApart (actionsOf m)) := by
  obtain ⟨lines, hread, hmembers⟩ := read_pageObject o m ho
  refine ⟨lines, hread, hmembers, ?_⟩
  rw [hmembers]
  exact Playwright.isValid_iff (actionsOf m)

/-- Two fields and a button. -/
def signUp : List Action := [{ selector := "#first", value := "Ada", kind := .fill, label := some "First name" },
  { selector := "#mail", value := "a@b.c", kind := .fill, fieldType := some "email" },
  { selector := "#go", kind := .submit }]

/-- The page object of a form with two fields is a valid class. -/
theorem signUp_valid : NamedApart signUp ∧ ∃ lines,
    javaScript.read (playwright.scriptFor { includePageObject := true } (.actions signUp)) = some lines ∧
      IsValidClass (membersOf lines) := by
  have hnamed : NamedApart signUp := ⟨by decide +kernel, by decide +kernel, by decide +kernel⟩
  obtain ⟨lines, hread, -, hvalid⟩ := page_object_valid_iff { includePageObject := true } (.actions signUp) rfl
  exact ⟨hnamed, lines, hread, hvalid.2 hnamed⟩

/-- Two fields with one label. -/
def namesakes : List Action := [{ selector := "#a", value := "x", kind := .fill, label := some "Name" },
  { selector := "#b", value := "y", kind := .fill, label := some "Name" }]

/-- Their page object has two getters of one name, and a method with two parameters of one name. -/
theorem namesakes_invalid : ∃ lines,
    javaScript.read (playwright.scriptFor { includePageObject := true } (.actions namesakes)) = some lines ∧
      membersOf lines = [⟨"constructor".toList, ["page".toList]⟩, ⟨"name".toList, []⟩, ⟨"name".toList, []⟩,
        ⟨"fillForm".toList, ["nameValue".toList, "nameValue".toList]⟩] ∧ ¬ IsValidClass (membersOf lines) := by
  obtain ⟨lines, hread, hmembers⟩ := read_pageObject { includePageObject := true } (.actions namesakes) rfl
  refine ⟨lines, hread, ?_, fun hvalid => ?_⟩
  · rw [hmembers]
    decide +kernel
  · rw [hmembers] at hvalid
    exact absurd ((Playwright.isValid_iff namesakes).1 hvalid).distinct (by decide +kernel)

end PageTape.Script
