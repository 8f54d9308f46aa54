import CalcScript.Command

/-!
# Requests in any order

The options and the path of a script can be given in any order. Arguments that name each option at
most once, and at most one path, ask for what they name.
-/

set_option autoImplicit false

namespace CalcScript.Command

/-- The arguments that ask for some options. -/
def Options.flags (options : Options) : List String :=
  (if options.tokens then ["--tokens"] else []) ++ (if options.tree then ["--ast"] else [])

theorem Options.mem_flags {options : Options} {flag : String} :
    flag ∈ options.flags ↔
      options.tokens = true ∧ flag = "--tokens" ∨ options.tree = true ∧ flag = "--ast" := by
  simp [flags]

theorem Options.looksLikeOption_of_mem_flags {options : Options} {flag : String}
    (mem : flag ∈ options.flags) : Request.looksLikeOption flag = true := by
  obtain ⟨-, rfl⟩ | ⟨-, rfl⟩ := mem_flags.mp mem <;> decide

/-- What is asked for by the path of a script, if there is one, and options. -/
def Request.ofPath (options : Options) : Option String → Request
  | none => .piped options
  | some path => .file path options

namespace Draft

/-- Arguments that can be added to a draft: options that it does not have yet, and a path if it has
none. -/
structure Takes (draft : Draft) (arguments : List String) : Prop where
  known : ∀ argument ∈ arguments,
    argument = "--tokens" ∨ argument = "--ast" ∨ Request.looksLikeOption argument = false
  tokens : arguments.count "--tokens" + draft.options.tokens.toNat ≤ 1
  tree : arguments.count "--ast" + draft.options.tree.toNat ≤ 1
  path : (arguments.filter (!Request.looksLikeOption ·)).length + draft.path?.toList.length ≤ 1
  once : draft.repeated? = none

/-- What a draft asks for with some arguments added, in whatever order they come. -/
def requestWith (draft : Draft) (arguments : List String) : Request :=
  let options : Options := ⟨draft.options.tokens || arguments.contains "--tokens",
    draft.options.tree || arguments.contains "--ast"⟩
  .ofPath options (draft.path?.or (arguments.filter (!Request.looksLikeOption ·)).head?)

end Draft

namespace Request

/-- An argument without the form of an option is a path. -/
theorem ofRest_path {path : String} (plain : looksLikeOption path = false) (options : Options)
    (repeated? : Option String) (rest : List String) :
    ofRest ⟨options, none, repeated?⟩ (path :: rest) =
      ofRest ⟨options, some path, repeated?⟩ rest := by
  have ne_of_option (argument : String) (form : looksLikeOption argument = true) :
      path ≠ argument := by
    rintro rfl
    simp [form] at plain
  have asks : asksVersion path = false := by
    have short : path.toList.take 2 ≠ ['-', 'V'] := by
      intro starts
      have head : path.toList.head? = some '-' := by
        cases characters : path.toList <;> simp_all
      have longer : path ≠ "-" := by
        rintro rfl
        exact absurd starts (by decide)
      simp [looksLikeOption, head, longer] at plain
    simp [asksVersion, short, ne_of_option "--version" (by decide)]
  simp [ofRest, Draft.addPath?, asks, plain, ne_of_option "--" (by decide),
    ne_of_option "--tokens" (by decide),
    ne_of_option "--ast" (by decide)]

/-- Arguments that a draft takes are all read, and ask for what they name. -/
theorem ofRest_of_takes {draft : Draft} {arguments : List String}
    (takes : draft.Takes arguments) : ofRest draft arguments = draft.requestWith arguments := by
  induction arguments generalizing draft with
  | nil =>
      obtain ⟨options, path?, repeated?⟩ := draft
      obtain rfl : repeated? = none := takes.once
      cases path? <;> simp [ofRest, Draft.request, Draft.requestWith, ofPath]
  | cons argument rest ih =>
      obtain ⟨⟨hasTokens, hasTree⟩, path?, repeated?⟩ := draft
      obtain ⟨known, tokens, tree, path, once⟩ := takes
      obtain rfl : repeated? = none := once
      have formOfTokens : looksLikeOption "--tokens" = true := by decide
      have formOfTree : looksLikeOption "--ast" = true := by decide
      obtain ⟨rfl | rfl | plain, later⟩ := List.forall_mem_cons.mp known
      · obtain rfl : hasTokens = false := by cases hasTokens <;> simp_all
        have takes : Draft.Takes ⟨⟨true, hasTree⟩, path?, none⟩ rest := by
          constructor <;> simp_all
        rw [ofRest, if_neg (by decide), if_neg (by decide), if_pos rfl, Draft.addTokens,
          if_neg Bool.false_ne_true, ih takes]
        simp [Draft.requestWith, formOfTokens]
      · obtain rfl : hasTree = false := by cases hasTree <;> simp_all
        have takes : Draft.Takes ⟨⟨hasTokens, true⟩, path?, none⟩ rest := by
          constructor <;> simp_all
        rw [ofRest, if_neg (by decide), if_neg (by decide), if_neg (by decide), if_pos rfl,
          Draft.addTree, if_neg Bool.false_ne_true, ih takes]
        simp [Draft.requestWith, formOfTree]
      · obtain rfl : path? = none := by cases path? <;> simp_all
        have notTokens : argument ≠ "--tokens" := by rintro rfl; simp [formOfTokens] at plain
        have notTree : argument ≠ "--ast" := by rintro rfl; simp [formOfTree] at plain
        have takes : Draft.Takes ⟨⟨hasTokens, hasTree⟩, some argument, none⟩ rest := by
          constructor <;> simp_all [List.count_cons_of_ne]
        rw [ofRest_path plain, ih takes]
        simp [Draft.requestWith, plain, notTokens.symm, notTree.symm]

section Named

variable {options : Options} {path? : Option String} {arguments : List String}
  (plain : ∀ path ∈ path?, looksLikeOption path = false)
  (given : arguments.Perm (path?.toList ++ options.flags))

include plain given

theorem paths_of_perm : arguments.filter (!looksLikeOption ·) = path?.toList := by
  have same := given.filter (!looksLikeOption ·)
  have noFlag : options.flags.filter (!looksLikeOption ·) = [] := by
    simpa using fun _ => Options.looksLikeOption_of_mem_flags
  have allOfPath : path?.toList.filter (!looksLikeOption ·) = path?.toList := by
    simpa using plain
  rw [List.filter_append, noFlag, allOfPath, List.append_nil] at same
  cases path? with
  | none => exact same.eq_nil
  | some path => exact List.perm_singleton.mp same

theorem count_of_perm {flag : String} (form : looksLikeOption flag = true) :
    arguments.count flag = options.flags.count flag := by
  have noPath : flag ∉ path?.toList := by
    intro path
    simp [plain flag (by simpa using path)] at form
  simp [given.count_eq, List.count_eq_zero.mpr noPath]

theorem count_tokens_of_perm : arguments.count "--tokens" = options.tokens.toNat := by
  rw [count_of_perm plain given (by decide)]
  obtain ⟨_ | _, _ | _⟩ := options <;> rfl

theorem count_tree_of_perm : arguments.count "--ast" = options.tree.toNat := by
  rw [count_of_perm plain given (by decide)]
  obtain ⟨_ | _, _ | _⟩ := options <;> rfl

theorem takes_of_perm : Draft.empty.Takes arguments := by
  refine ⟨?_, ?_, ?_, ?_, rfl⟩
  · intro argument mem
    obtain path | flag := List.mem_append.mp (given.mem_iff.mp mem)
    · exact .inr (.inr (plain argument (by simpa using path)))
    · obtain ⟨-, rfl⟩ | ⟨-, rfl⟩ := Options.mem_flags.mp flag
      · exact .inl rfl
      · exact .inr (.inl rfl)
  · simpa [Draft.empty, count_tokens_of_perm plain given] using Bool.toNat_le options.tokens
  · simpa [Draft.empty, count_tree_of_perm plain given] using Bool.toNat_le options.tree
  · rw [paths_of_perm plain given]
    cases path? <;> simp [Draft.empty]

/-- The options and the path of a script can be given in any order. -/
theorem ofArguments_of_perm : ofArguments arguments = .ofPath options path? := by
  have contains {flag : String} {named : Bool} (occurs : arguments.count flag = named.toNat) :
      arguments.contains flag = named := by
    rw [Bool.eq_iff_iff, List.contains_iff_mem, ← List.count_pos_iff, occurs]
    cases named <;> simp
  rw [ofArguments, ofRest_of_takes (takes_of_perm plain given), Draft.requestWith,
    paths_of_perm plain given, contains (count_tokens_of_perm plain given),
    contains (count_tree_of_perm plain given)]
  cases path? <;> simp [Draft.empty]

end Named

end Request

end CalcScript.Command
