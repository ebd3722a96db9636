import AccessSync.Directory.Client

/-!
# Credentials

Which credential a configuration asks for.
-/

namespace AccessSync

inductive Credential where
  /-- Whoever is signed in on the command line. -/
  | commandLine (tenant : Value)
  | clientSecret (tenant client secret : Value)
  /-- Whatever the surroundings offer. -/
  | ambient

namespace Credential

def component : String := "Credentials"

def ofConfig (config : Value) : Act Credential := do
  let tenant := (Directory.entryOr config "azure_tenant_id" .null).orElse .null
  let client := Directory.entryOr config "azure_client_id" .null
  let secret := Directory.entryOr config "azure_client_secret" .null
  if (Directory.entryOr config "use_cli_credentials" .null).holds then
    Run.log .info component "Using Azure CLI credentials"
    return .commandLine tenant
  else if client.holds && secret.holds then
    if tenant.isEmpty then Run.fail (.configuration .tenantMissing)
    Run.log .info component
      ("Using client secret credentials for client " ++ client.display)
    return .clientSecret tenant client secret
  else
    Run.log .info component "Using DefaultAzureCredential"
    return .ambient

end Credential

end AccessSync
