import InfraSynth.Block.Basic
import InfraSynth.Decode.Record

/-!
# Providers

A provider is named in a configuration together with where it comes from, which
versions are good, and its settings.  A template may say something about the
settings.
-/

namespace InfraSynth

/-- A provider. -/
structure Provider where
  name : String
  source : String
  version : String
  settings : Block
  deriving DecidableEq

/-- Where the provider comes from, and which versions are good. -/
def Provider.requirement (provider : Provider) : Block :=
  Block.empty
    |>.attr "source" provider.source
    |>.attr "version" provider.version

/-- What a template says about the settings of the provider. -/
structure ProviderSettings where
  region : Option String
  profile : Option String
  defaultTags : TextMap
  deriving DecidableEq

namespace ProviderSettings

/-- Nothing is said. -/
def empty : ProviderSettings :=
  ⟨none, none, .empty⟩

/-- How the settings are written. -/
def record {σ ε : Type} [Source σ ε] : Record σ ε ProviderSettings where
  name := "ProviderSettings"
  types := _
  fields :=
    .cons (.nullable "region" .text) <|
    .cons (.nullable "profile" .text) <|
    .cons (.defaulted "default_tags" (.sortedMap .text) .empty) .nil
  build := fun (region, profile, defaultTags, ()) => { region, profile, defaultTags }
  row settings := (settings.region, settings.profile, settings.defaultTags, ())

end ProviderSettings

end InfraSynth
