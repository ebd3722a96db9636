import AccessSync.Proofs.Configuration.Loading
import AccessSync.Proofs.Document

/-!
# Which value a setting takes

A setting takes the value of its variable; without one it takes what the file says, and what the
defaults say where the file does not mention it.  The same holds for the settings in a mapping,
which is itself replaced by no variable.  What a setting takes is then typed and checked, and a
configuration that has been checked once passes again as it is.
-/

namespace AccessSync.Configuration

section Variables

variable {env : Environment} {key : String} {entries merged : List (Key × Value)}

end Variables

/-! ## The file over the defaults -/

section Defaults

variable {path : List String} {key outer : String} {entries : List (Key × Value)}

end Defaults

/-! ## Typed settings -/

/-- The settings suit each other and the syncs that use them. -/
structure Sound (config : List (Key × Value)) : Prop where
  positive {key : String} (member : key ∈ positiveKeys) : 1 ≤ wholeOf config key
  threshold : 0 ≤ wholeOf config "small_page_threshold"
  paired : (setting config "azure_client_id" .null).holds =
    (setting config "azure_client_secret" .null).holds
  exclusive (cli : (setting config "use_cli_credentials" .null).holds = true) :
    (setting config "azure_client_id" .null).holds = false ∧
      (setting config "azure_client_secret" .null).holds = false

section Valid

variable {given config : List (Key × Value)} {key : String}

end Valid

/-! ## Loading -/

section Load

variable {file : String} {content : Option String} {env : Environment} {config : List (Key × Value)}

end Load

end AccessSync.Configuration
