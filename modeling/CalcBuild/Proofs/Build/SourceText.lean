/-
**The source text on its way to the front end.**

A source file is taken exactly if it holds well-formed text. White space around that text is left out,
and what is left reaches the front end as its first argument, byte by byte.

* `Trims`: a text that neither begins nor ends with white space, with nothing but white space around it;
* `trims_iff`: there is one such text in any other;
* `source_text_passed`: the main theorem.
-/

import CalcBuild.Build.Request
import CalcBuild.Proofs.Text.Spelling

namespace CalcBuild

open Files Text

/-! ### White space around a text -/

/-- A text between white space that neither begins nor ends with any. -/
structure Trims (contents text : List Char) : Prop where
  around : ∃ before after, contents = before ++ text ++ after ∧
    (∀ c ∈ before, isBlank c = true) ∧ ∀ c ∈ after, isBlank c = true
  begins : ∀ c ∈ text.head?, isBlank c = false
  ends : ∀ c ∈ text.getLast?, isBlank c = false

theorem dropWhile_solid {text : List Char} (begins : ∀ c ∈ text.head?, isBlank c = false) :
    text.dropWhile isBlank = text := by
  cases text with
  | nil => rfl
  | cons c text => exact List.dropWhile_cons_of_neg (by simp [begins c rfl])

theorem head?_dropWhile {chars : List Char} {c : Char}
    (first : c ∈ (chars.dropWhile isBlank).head?) : isBlank c = false := by
  have solid := List.head?_dropWhile_not isBlank chars
  rw [Option.mem_def.mp first] at solid
  simpa using solid

/-- **The trimmed text** has white space around it, and no more at its ends. -/
theorem trims_trimBlank (contents : List Char) : Trims contents (trimBlank contents) := by
  unfold trimBlank
  have whole := List.takeWhile_append_dropWhile (p := isBlank) (l := contents)
  have solid {c : Char} := @head?_dropWhile contents c
  generalize contents.dropWhile isBlank = middle at whole solid ⊢
  have rest := congrArg List.reverse (List.takeWhile_append_dropWhile (p := isBlank) (l := middle.reverse))
  rw [List.reverse_append, List.reverse_reverse] at rest
  refine ⟨⟨contents.takeWhile isBlank, (middle.reverse.takeWhile isBlank).reverse, ?_,
    fun c member => List.mem_takeWhile_imp member, fun c member =>
      List.mem_takeWhile_imp (List.mem_reverse.mp member)⟩, fun c first => solid ?_, fun c last => ?_⟩
  · rw [List.append_assoc, rest, whole]
  · rw [← rest, List.head?_append, Option.mem_def.mp first]
    rfl
  · rw [List.getLast?_reverse] at last
    exact head?_dropWhile last

/-- A text between white space is what trimming leaves. -/
theorem Trims.eq_trimBlank {contents text : List Char} (trims : Trims contents text) :
    trimBlank contents = text := by
  obtain ⟨⟨before, after, rfl, blank, blank'⟩, begins, ends⟩ := trims
  unfold trimBlank
  rw [List.append_assoc, List.dropWhile_append_of_pos blank]
  cases text with
  | nil =>
    have nothing : after.dropWhile isBlank = [] := List.dropWhile_eq_nil_iff.mpr blank'
    simp [nothing]
  | cons c text =>
    have front : ((c :: text) ++ after).dropWhile isBlank = (c :: text) ++ after :=
      dropWhile_solid begins
    have back : ∀ last ∈ (c :: text).reverse.head?, isBlank last = false := by
      rwa [List.head?_reverse]
    rw [front, List.reverse_append, List.dropWhile_append_of_pos (by simpa using blank'),
      dropWhile_solid back, List.reverse_reverse]

/-- **There is one such text in any other.** -/
theorem trims_iff {contents text : List Char} : Trims contents text ↔ trimBlank contents = text :=
  ⟨Trims.eq_trimBlank, fun same => same ▸ trims_trimBlank contents⟩

/-! ### Requests -/

/-- What is decoded of the contents decides whether there is a request, and which one. -/
theorem ofContents_cases (path contents : Bytes) (output? : Option Bytes) :
    ((¬ ∃ chars, Utf8.WellFormed contents chars) ∧
        BuildRequest.ofContents path contents output? = .error (.inputRead path .notText)) ∨
      ∃ chars, Utf8.WellFormed contents chars ∧ BuildRequest.ofContents path contents output?
        = .ok ⟨path, String.ofList (trimBlank chars), output?⟩ := by
  unfold BuildRequest.ofContents
  cases decoded : Utf8.decode? contents with
  | none =>
    refine .inl ⟨fun ⟨chars, spelled⟩ => ?_, rfl⟩
    rw [Utf8.decode?_eq_some_iff.mpr spelled] at decoded
    cases decoded
  | some chars => exact .inr ⟨chars, Utf8.decode?_eq_some_iff.mp decoded, rfl⟩

/-- The front end has one command in a plan, and the source text is its first argument. -/
theorem plan_frontend (toolchain : Toolchain) (workspace : Workspace)
    (runtimeSource sourceText output : Bytes) : ∃ command,
      (plan toolchain workspace runtimeSource sourceText output).filter
        (fun command => command.stage = .frontendCompile) = [command] ∧
      command.arguments.head? = some sourceText :=
  ⟨.making toolchain .frontendCompile [sourceText] [] workspace.exprIr, rfl, rfl⟩

/-- **The source text reaches the front end as it is.** There is a request for a readable file exactly if
the file holds well-formed text, and what is wrong with any other file is told together with its path.
The text of the request is what is left of the file without the white space at its ends, and the front
end is given the bytes of that text as its first argument. -/
theorem source_text_passed {files : FileSystem} {cwd : Place} {path contents : Bytes}
    (readable : files.read cwd path = .ok contents) (output? : Option Bytes) :
    ((∃ request, BuildRequest.read files cwd path output? = .ok request) ↔
      ∃ chars, Utf8.WellFormed contents chars) ∧
    (∀ failure, BuildRequest.read files cwd path output? = .error failure →
      failure = .inputRead path .notText) ∧
    ∀ request, BuildRequest.read files cwd path output? = .ok request →
      request.sourcePath = path ∧ request.output? = output? ∧
      (∀ chars text, Utf8.WellFormed contents chars →
        (Trims chars text ↔ request.sourceText = String.ofList text)) ∧
      ∀ toolchain workspace runtimeSource output, ∃ command,
        (plan toolchain workspace runtimeSource (Bytes.ofText request.sourceText) output).filter
          (fun command => command.stage = .frontendCompile) = [command] ∧
        command.arguments.head? = some (Utf8.encode request.sourceText.toList) := by
  have read_eq : BuildRequest.read files cwd path output?
      = BuildRequest.ofContents path contents output? := by
    unfold BuildRequest.read
    rw [readable]
  rw [read_eq]
  rcases ofContents_cases path contents output? with ⟨broken, refused⟩ | ⟨chars, spelled, taken⟩
  · rw [refused]
    refine ⟨iff_of_false (by simp) broken, fun failure same => ?_, nofun⟩
    cases same
    rfl
  · rw [taken]
    refine ⟨iff_of_true ⟨_, rfl⟩ ⟨chars, spelled⟩, nofun, fun request same => ?_⟩
    cases same
    refine ⟨rfl, rfl, fun chars' text spelled' => ?_, fun toolchain workspace runtimeSource output =>
      plan_frontend toolchain workspace runtimeSource _ output⟩
    rw [spelled'.unique spelled, trims_iff, String.ofList_inj]

/-- A byte order mark, a digit, a space, a NUL and a letter of two bytes. -/
def spacedText : List Char := [Char.ofNat 0xFEFF, '1', ' ', Char.ofNat 0, Char.ofNat 0xE9]

/-- That text, between white space of one and of three bytes. -/
theorem trims_spaced : Trims ([' ', Char.ofNat 0x3000] ++ spacedText ++ [Char.ofNat 0x2003, '\n'])
    spacedText where
  around := ⟨_, _, rfl,
    List.forall_mem_cons.mpr ⟨by decide, List.forall_mem_singleton.mpr (by decide)⟩,
    List.forall_mem_cons.mpr ⟨by decide, List.forall_mem_singleton.mpr (by decide)⟩⟩
  begins _ first := by
    cases first
    decide
  ends _ last := by
    cases last
    decide

/-- All of the text is passed on, and nothing else. -/
theorem source_text_passed_spaced :
    let contents := Utf8.encode ([' ', Char.ofNat 0x3000] ++ spacedText ++ [Char.ofNat 0x2003, '\n'])
    let files := FileSystem.empty.put [Bytes.ofText "s"] (.file Mode.ofFile contents)
    files.read [] (Bytes.ofText "s") = .ok contents ∧
    ∃ request, BuildRequest.read files [] (Bytes.ofText "s") none = .ok request ∧
      request.sourceText = String.ofList spacedText := by
  intro contents files
  have readable : files.read [] (Bytes.ofText "s") = .ok contents := by cbv
  have spelled := Utf8.wellFormed_iff.mpr (rfl : contents = Utf8.encode _)
  obtain ⟨accepted, _, passed⟩ := source_text_passed readable none
  obtain ⟨request, taken⟩ := accepted.mpr ⟨_, spelled⟩
  exact ⟨readable, request, taken, ((passed request taken).2.2.1 _ _ spelled).mp trims_spaced⟩

end CalcBuild
