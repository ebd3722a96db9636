import AccessSync.GrantPolicy
import AccessSync.RoleActions

/-!
# Records of the management service

Role assignments and role definitions come with their fields either at the top or in a part of
their own named `properties`.
-/

namespace AccessSync

structure RoleDefinition where
  id : String
  name : String
  roleName : String
  description : String
  roleType : String
  permissions : List Permission
  deriving Inhabited

/-- The part of a record that holds its fields. -/
def propertiesOf (record : Value) : Except Misuse Value := do
  return (← record.field "properties").orElse record

def RoleAssignment.ofValue (record : Value) : Except Misuse RoleAssignment := do
  let properties ← propertiesOf record
  return {
    id := ← record.textField "id" ""
    name := ← record.textField "name" ""
    scope := ← properties.textField "scope" ""
    roleDefinitionId := ← properties.textField "role_definition_id" ""
    principalId := ← properties.textField "principal_id" ""
    principalType := ← properties.field "principal_type" }

def Permission.ofValue (record : Value) : Except Misuse Permission := do
  return {
    actions := ← (← record.listField "actions").mapM Value.asText
    notActions := ← (← record.listField "not_actions").mapM Value.asText }

def RoleDefinition.ofValue (record : Value) : Except Misuse RoleDefinition := do
  let properties ← propertiesOf record
  let permissions ← (← properties.listField "permissions").mapM Permission.ofValue
  return {
    id := ← record.textField "id" ""
    name := ← record.textField "name" ""
    roleName := ← properties.textField "role_name" ""
    description := ← properties.textField "description" ""
    roleType := ← properties.textField "role_type" ""
    permissions }

end AccessSync
