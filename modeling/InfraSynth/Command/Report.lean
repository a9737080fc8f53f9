import InfraSynth.Command.TemplateFile
import InfraSynth.Text.Columns

/-!
# Reports of commands

What commands print that do not change anything: the result of a check, the prices
of resources, the types of resources, and documents that are not written to files.
-/

namespace InfraSynth.Command

/-- What a command prints until it is done or fails. -/
structure Report where
  lines : List String
  failure : Option Failure

/-- The report of a command that has printed lines and succeeds. -/
def Report.success (lines : List String) : Report :=
  ⟨lines, none⟩

/-- The lines of a report as they are printed. -/
def Report.text (report : Report) : String :=
  String.join (report.lines.map (· ++ "\n"))

/-! ## Checks -/

/-- The lines for a template that was turned down. -/
def failureLines (path : String) (failure : Failure) : List String :=
  s!"   ❌ {path}:" :: (Text.lines failure.message).map ("      " ++ ·)

/-- The lines for one file. -/
def checkLines (quiet : Bool) (config : Config) (file : TemplateFile) : List String :=
  match file.synthesize config with
  | .ok done => if quiet then [] else [s!"   ✅ {file.path} {done.countText}"]
  | .error failure => failureLines file.path failure

/-- Check the templates of all files. -/
def validate (quiet : Bool) (config : Config) (files : List TemplateFile) : Report :=
  let failed := (files.filter fun file => (file.synthesize config).toOption.isNone).length
  let lines := files.flatMap (checkLines quiet config)
  if failed ≠ 0 then ⟨lines, some (.invalidTemplates failed files.length)⟩
  else .success (if quiet then lines else lines ++ ["", "✅ All templates valid"])

/-! ## Prices -/

/-- A line with an amount of money. -/
def amountLine (label : String) (amount : Binary64) : String :=
  s!"   {Text.padRight 48 label} ${Text.padLeft 9 amount.money}"

/-- The line for a resource; one without price is left out of a quiet report. -/
def costLine (quiet : Bool) (resource : DeclaredResource) : List String :=
  match resource.monthlyCost with
  | some cost => [amountLine resource.address cost]
  | none =>
    let nothing := Text.padLeft 10 "-"
    if quiet then [] else [s!"   {Text.padRight 48 resource.address} {nothing}"]

/-- The lines for one file. -/
def costLines (quiet : Bool) (file : SynthesizedFile) : List String :=
  s!"💰 {file.name}" :: file.synth.declared.flatMap (costLine quiet) ++
    [amountLine "subtotal" file.synth.monthlyCost]

/-- The prices of the resources in the files from one on, given the lines and the
total of those before it. -/
def costAfter (quiet : Bool) (config : Config) (lines : List String) (total : Binary64) :
    List TemplateFile → Report
  | [] => .success (lines ++ ["", s!"Estimated monthly total: ${total.money}"])
  | file :: rest =>
    match file.synthesize config with
    | .error failure => ⟨lines, some failure⟩
    | .ok done =>
      costAfter quiet config (lines ++ costLines quiet done) (total.add done.synth.monthlyCost) rest

/-- The prices of the resources in all files. -/
def cost (quiet : Bool) (config : Config) (files : List TemplateFile) : Report :=
  costAfter quiet config [] .zero files

/-! ## Types of resources -/

/-- The types as JSON. -/
def typesJson (types : List Aws.ResourceType) : Json :=
  .array (types.map fun type =>
    .object [("resource_type", type.name), ("outputs", .strings type.outputs)])

/-- The types as a list. -/
def typeLines (types : List Aws.ResourceType) : List String :=
  s!"📦 Supported resource types ({types.length}):" :: types.map fun type =>
    let outputs := ", ".intercalate type.outputs
    s!"   {Text.padRight 32 type.name} {outputs}"

/-- The types that are known. -/
def resources (asJson : Bool) : Report :=
  let types := Registry.types Registry.aws
  .success (if asJson then [(typesJson types).pretty] else typeLines types)

/-! ## Documents -/

/-- The documents of several files by the names of their templates. -/
def documentsByName (files : List SynthesizedFile) : Json :=
  .object (files.map fun file => (file.name, file.synth.document))

/-- The document of the only file, or the documents of all files in a directory. -/
def documents (inDirectory : Bool) (files : List SynthesizedFile) : Json :=
  if inDirectory then documentsByName files
  else (files.head?.map (·.synth.document)).getD .null

/-- Print the documents of all files. -/
def printDocuments (inDirectory : Bool) (config : Config) (files : List TemplateFile) : Report :=
  match synthesizeAll config files with
  | .error failure => ⟨[], some failure⟩
  | .ok done => .success [(documents inDirectory done).pretty]

end InfraSynth.Command
