import InfraSynth.Proofs.Command.Agreement
import InfraSynth.Proofs.Command.Failing
import InfraSynth.Proofs.Text

/-!
# How runs end

Each kind of failure is meant to end the process with a code of its own,
`Failure.usualExit`.  For an error that is how it ends.  The other failures are only
told in words, which are searched for "validation" and for "template", and the names of
files and templates are among them.  `run_exit` says which names lead to another code.

## Strategy

A message is made of fixed phrases and of names with a space or a quotation mark
between them, so a word is in the message exactly if it is in one of them,
`Failure.mentions_message`.
-/

namespace InfraSynth.Command

open Files (Disk)

variable {word : String}

/-! ## Words in a message -/

/-- Whether a word is in a text, written in small letters or in capitals. -/
def mentions (word text : String) : Bool :=
  Text.contains (Text.lowerAscii text) word

theorem exitOfWords_eq (message : String) :
    exitOfWords message =
      if mentions "validation" message then .validation
      else if mentions "template" message then .template
      else if mentions "argument" message || mentions "not found" message then .usage
      else .general :=
  rfl

/-- A word does not go across a separator that it has not. -/
theorem mentions_append (separator : String) (c : Char) (before after : String)
    (hseparator : separator = String.singleton c) (hlower : c.toLower = c)
    (h : c ∉ word.toList) :
    mentions word (before ++ separator ++ after) =
      (mentions word before || mentions word after) := by
  have hsingle : Text.lowerAscii (String.singleton c) = String.singleton c := by
    simp [Text.lowerAscii, hlower]
  unfold mentions
  rw [hseparator, Text.lowerAscii_append, Text.lowerAscii_append, hsingle, Text.contains_append h]

namespace Failure

/-- The parts of a message between spaces or quotation marks: those that are in every
message of the kind, and paths, names and numbers. -/
def parts : Failure → List String
  | error .. => []
  | missingConfig path => ["Configuration file not found:", path]
  | missingTemplates path => ["Template path not found:", path]
  | noTemplates path => ["No templates found under", path]
  | sameName first second name =>
    ["Templates", first, "and", second, "are both named ", name,
      " and would write the same output file"]
  | invalidTemplates failed total =>
    [toString failed, "of", toString total, "template(s) failed", "validation"]

/-- A word is in a message exactly if it is in one of its parts. -/
theorem mentions_message (failure : Failure) (hcause : ∀ task cause, failure ≠ error task cause)
    (hspace : ' ' ∉ word.toList) (hquote : '\'' ∉ word.toList) :
    mentions word failure.message = failure.parts.any (mentions word) := by
  -- the word has neither a space nor a quotation mark, so it does not reach across one
  have hat : ∀ before after, mentions word (before ++ " " ++ after) =
      (mentions word before || mentions word after) := fun before after =>
    mentions_append " " ' ' before after rfl rfl hspace
  have hmark : ∀ before after, mentions word (before ++ "'" ++ after) =
      (mentions word before || mentions word after) := fun before after =>
    mentions_append "'" '\'' before after rfl rfl hquote
  cases failure with
  | error task cause => exact absurd rfl (hcause task cause)
  | missingConfig path =>
      have hmessage : (missingConfig path).message =
          "Configuration file not found:" ++ " " ++ path := rfl
      rw [hmessage, hat]
      simp [parts]
  | missingTemplates path =>
      have hmessage : (missingTemplates path).message =
          "Template path not found:" ++ " " ++ path := rfl
      rw [hmessage, hat]
      simp [parts]
  | noTemplates path =>
      have hmessage : (noTemplates path).message = "No templates found under" ++ " " ++ path := rfl
      rw [hmessage, hat]
      simp [parts]
  | sameName first second name =>
      have hmessage : (sameName first second name).message =
          "Templates" ++ " " ++ first ++ " " ++ "and" ++ " " ++ second ++ " " ++
            "are both named " ++ "'" ++ name ++ "'" ++ " and would write the same output file" := by
        rw [← String.toList_inj]
        show ("Templates " ++ first ++ " and " ++ second ++ " are both named '" ++ name ++
          "' and would write the same output file").toList = _
        simp
      rw [hmessage, hmark, hmark, hat, hat, hat, hat]
      simp [parts, Bool.or_assoc]
  | invalidTemplates failed total =>
      have hmessage : (invalidTemplates failed total).message =
          toString failed ++ " " ++ "of" ++ " " ++ toString total ++ " " ++
            "template(s) failed" ++ " " ++ "validation" := by
        rw [← String.toList_inj]
        show (toString failed ++ " of " ++ toString total ++
          " template(s) failed validation").toList = _
        simp
      rw [hmessage, hat, hat, hat, hat]
      simp [parts, Bool.or_assoc]

/-- How a process is meant to end. -/
def usualExit : Failure → Exit
  | error _ cause => exitOfError cause
  | missingConfig _ => .usage
  | missingTemplates _ | noTemplates _ | sameName .. => .template
  | invalidTemplates .. => .validation

/-- The paths and names of files and templates in a message. -/
def names : Failure → List String
  | missingConfig path | missingTemplates path | noTemplates path => [path]
  | sameName first second name => [first, second, name]
  | error .. | invalidTemplates .. => []

/-- The words that lead to another end if they are in a name. -/
def misleadingWords : Failure → List String
  | missingConfig _ => ["validation", "template"]
  | missingTemplates _ | noTemplates _ | sameName .. => ["validation"]
  | error .. | invalidTemplates .. => []

/-- The first such word in a name. -/
def misleadingWord? (failure : Failure) : Option String :=
  failure.misleadingWords.find? fun word => failure.names.any (mentions word)

/-- A process that ends because of a failure told in words searches the parts of the
message. -/
theorem exit_eq_of_parts (failure : Failure) (hcause : ∀ task cause, failure ≠ error task cause) :
    failure.exit =
      if failure.parts.any (mentions "validation") then .validation
      else if failure.parts.any (mentions "template") then .template
      else if mentions "argument" failure.message || mentions "not found" failure.message then
        .usage
      else .general := by
  have hexit : failure.exit = exitOfWords failure.message := by
    cases failure with
    | error task cause => exact absurd rfl (hcause task cause)
    | _ => rfl
  rw [hexit, exitOfWords_eq, failure.mentions_message hcause (by decide) (by decide),
    failure.mentions_message hcause (by decide) (by decide)]

/-- **A process ends as it is meant to, unless a name has a misleading word.** -/
theorem exit_eq (failure : Failure) :
    failure.exit = failure.misleadingWord?.elim failure.usualExit exitOfWords := by
  have hvalidation : exitOfWords "validation" = .validation := by decide
  have htemplate : exitOfWords "template" = .template := by decide
  -- what the fixed parts of a message hold is decided; the words in names are told apart
  cases failure with
  | error task cause => rfl
  | missingConfig path =>
      have hmessage : (missingConfig path).message =
          "Configuration file not found" ++ ":" ++ (" " ++ path) := by
        rw [← String.toList_inj]
        show ("Configuration file not found: " ++ path).toList = _
        simp
      have hfound : mentions "not found" (missingConfig path).message = true := by
        have hphrase : mentions "not found" "Configuration file not found" = true := by decide
        rw [hmessage, mentions_append ":" ':' _ _ rfl rfl (by decide), hphrase, Bool.true_or]
      rw [exit_eq_of_parts _ (by simp), hfound]
      cases hvalid : mentions "validation" path <;>
        cases hnamed : mentions "template" path <;>
        simp +decide [*, parts, misleadingWord?, misleadingWords, names, usualExit]
  | missingTemplates path | noTemplates path =>
      rw [exit_eq_of_parts _ (by simp)]
      cases hpath : mentions "validation" path <;>
        simp +decide [*, parts, misleadingWord?, misleadingWords, names, usualExit]
  | sameName first second name =>
      rw [exit_eq_of_parts _ (by simp)]
      cases hfirst : mentions "validation" first <;>
        cases hsecond : mentions "validation" second <;>
        cases hname : mentions "validation" name <;>
        simp +decide [*, parts, misleadingWord?, misleadingWords, names, usualExit]
  | invalidTemplates failed total =>
      rw [exit_eq_of_parts _ (by simp)]
      simp +decide [parts, misleadingWord?, misleadingWords, usualExit]

/-- The misleading words do mislead. -/
theorem exit_eq_usualExit_iff (failure : Failure) :
    failure.exit = failure.usualExit ↔
      ∀ word ∈ failure.misleadingWords, ∀ name ∈ failure.names, mentions word name = false := by
  have hnone : (∀ word ∈ failure.misleadingWords, ∀ name ∈ failure.names,
      mentions word name = false) ↔ failure.misleadingWord? = none := by
    simp [misleadingWord?, List.find?_eq_none]
  have hmislead : ∀ word ∈ failure.misleadingWords, exitOfWords word ≠ failure.usualExit := by
    cases failure <;> simp +decide [misleadingWords, usualExit]
  rw [hnone, exit_eq]
  cases hword : failure.misleadingWord? with
  | none => simp
  | some word => simpa using hmislead word (List.mem_of_find?_eq_some hword)

example : (missingTemplates "stacks/Validation").exit = .validation := by decide +kernel

end Failure

/-! ## Whole runs -/

theorem run_eq_of_ok {environment : String → Option String} {disk : Disk}
    {arguments : List String} {invocation : Invocation}
    (h : Invocation.ofArguments (environment configVariable) arguments = .ok invocation) :
    ((run environment arguments : StateM Disk Outcome).run disk).1 =
      ((invocation.report environment : StateM Disk Report).run disk).1.outcome := by
  unfold run
  rw [h]
  rfl

/-- **How a run ends.**  A run whose arguments are understood succeeds exactly if nothing
is wrong.  Otherwise it ends as is meant for the kind of failure, unless a path or a name
that the message shows has a word that the message is searched for. -/
theorem run_exit (environment : String → Option String) (disk : Disk) (arguments : List String) :
    let outcome := ((run environment arguments : StateM Disk Outcome).run disk).1
    match Invocation.ofArguments (environment configVariable) arguments with
    | .error stop => outcome = stop.outcome
    | .ok invocation =>
      (outcome.exit = .success ↔ ∀ failure, ¬invocation.Fails environment disk failure) ∧
      ∀ failure, invocation.Fails environment disk failure →
        outcome.exit = failure.misleadingWord?.elim failure.usualExit exitOfWords ∧
        (outcome.exit = failure.usualExit ↔ ∀ word ∈ failure.misleadingWords,
          ∀ name ∈ failure.names, mentions word name = false) := by
  intro outcome
  cases harguments : Invocation.ofArguments (environment configVariable) arguments with
  | error stop =>
      show ((run environment arguments : StateM Disk Outcome).run disk).1 = stop.outcome
      unfold run
      rw [harguments]
      rfl
  | ok invocation =>
      have houtcome : outcome =
          ((invocation.report environment : StateM Disk Report).run disk).1.outcome :=
        run_eq_of_ok harguments
      constructor
      · rw [houtcome, Report.exit_outcome_eq_success_iff, Option.eq_none_iff_forall_ne_some]
        exact forall_congr' fun failure => not_congr failure_report_iff
      · intro failure hfails
        have hreport := failure_report_iff.mpr hfails
        have hexit : outcome.exit = failure.exit := by
          rw [houtcome]
          unfold Report.outcome
          rw [hreport]
        rw [hexit]
        exact ⟨failure.exit_eq, failure.exit_eq_usualExit_iff⟩

/-- The name of something that is not there decides how a run ends. -/
theorem run_exit_misled :
    let exit (arguments : List String) :=
      ((run (fun _ => none) arguments : StateM Disk Outcome).run .empty).1.exit
    (Disk.empty.tree? "stacks" = none ∧ exit ["synth", "stacks"] = .template) ∧
    (Disk.empty.tree? "validation" = none ∧ exit ["synth", "validation"] = .validation) ∧
    (Disk.empty.tree? "pangea.toml" = none ∧
      exit ["-c", "pangea.toml", "validate"] = .usage) ∧
    (Disk.empty.tree? "template.toml" = none ∧
      exit ["-c", "template.toml", "validate"] = .template) :=
  ⟨⟨rfl, by decide +kernel⟩, ⟨rfl, by decide +kernel⟩, ⟨rfl, by decide +kernel⟩,
    ⟨rfl, by decide +kernel⟩⟩

end InfraSynth.Command
