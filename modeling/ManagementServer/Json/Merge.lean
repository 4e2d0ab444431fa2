import ManagementServer.Json.Basic

/-!
# Merging values

Two objects are merged member by member; anything else is replaced by the later value.
-/

namespace ManagementServer.Json

mutual

/-- `base` overlaid with `overlay`: where both are objects the result has the keys of both, and the
overlay wins at every other conflict. -/
def merge (base overlay : Json) : Json :=
  match overlay with
  | .object source =>
    match base with
    | .object target => .object (mergeMembers target source)
    | _ => .object source
  | other => other

/-- Members overlaid with further members, one at a time. -/
def mergeMembers (target : List (String × Json)) :
    List (String × Json) → List (String × Json)
  | [] => target
  | (key, value) :: rest =>
    let merged :=
      match member? key target with
      | some existing => merge existing value
      | none => value
    mergeMembers (insertMember key merged target) rest

end

end ManagementServer.Json
