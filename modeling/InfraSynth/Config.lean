import InfraSynth.Collection.SortedMap
import InfraSynth.Decode.Record
import InfraSynth.Error
import InfraSynth.Unicode.Classes

/-!
# Configuration

What all templates have in common unless they say otherwise: the region, the
profile, where documents are written, the tags of all resources and the version
of the provider.  Three of the settings can be overridden from the environment.
-/

namespace InfraSynth

/-- The common settings. -/
structure Config where
  region : String := "us-east-1"
  profile : Option String := none
  outputDir : String := "terraform"
  defaultTags : TextMap := .empty
  providerVersion : String := "~> 5.0"
  deriving DecidableEq

namespace Config

/-- The settings that hold where no others are given. -/
def default : Config := {}

/-- How the settings are written. -/
def record {σ ε : Type} [Source σ ε] : Record σ ε Config where
  name := "Config"
  types := _
  fields :=
    .cons (.defaulted "region" .text default.region) <|
    .cons { Field.nullable "profile" .text with presence := .defaulted default.profile } <|
    .cons (.defaulted "output_dir" .text default.outputDir) <|
    .cons (.defaulted "default_tags" (.sortedMap .text) default.defaultTags) <|
    .cons (.defaulted "provider_version" .text default.providerVersion) .nil
  build := fun (region, profile, outputDir, defaultTags, providerVersion, ()) =>
    { region, profile, outputDir, defaultTags, providerVersion }
  row config := (config.region, config.profile, config.outputDir, config.defaultTags,
    config.providerVersion, ())

/-- Turn down settings without region or version. -/
def check (config : Config) : Except Error Unit :=
  if Unicode.isBlank config.region then .error (.settings .blankRegion)
  else if Unicode.isBlank config.providerVersion then .error (.settings .blankVersion)
  else .ok ()

/-- The variable that overrides the region. -/
def regionVariable : String := "PANGEA_REGION"

/-- The variable that overrides the profile. -/
def profileVariable : String := "PANGEA_PROFILE"

/-- The variable that overrides where documents are written. -/
def outputDirVariable : String := "PANGEA_OUTPUT_DIR"

/-- The settings with those that a look-up gives in place of others. -/
def override (config : Config) (lookup : String → Option String) : Except Error Config := do
  let config := { config with
    region := (lookup regionVariable).getD config.region
    profile := (lookup profileVariable).or config.profile
    outputDir := (lookup outputDirVariable).getD config.outputDir }
  config.check
  return config

end Config

end InfraSynth
