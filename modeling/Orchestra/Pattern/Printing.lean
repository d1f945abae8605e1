import Orchestra.Pattern.Basic

namespace Orchestra

def OnError.toJson : OnError → Json
  | .proceed => .string "continue"
  | .stop => .string "stop"

def Reroute.toJson (reroute : Reroute) : Json :=
  .object [("name", .string reroute.flag), ("capability", .string reroute.capability)]

def Step.toJson (step : Step) : Json :=
  .object [
    ("description", .string step.description),
    ("capability", .string step.capability),
    ("args", step.args),
    ("as", .ofString? step.saveAs),
    ("error_handling", step.onError.toJson),
    ("flag", step.reroute.elim .null Reroute.toJson)]

def Panel.toJson (panel : Panel) : Json :=
  .object [("id", .string panel.id), ("dataPath", .ofString? panel.dataPath)]

def Outputs.toJson : Outputs → Json
  | .panels declared => .object [("panels", .array (declared.map Panel.toJson))]
  | .keys declared => .ofStrings declared
  | .mapping declared => .object declared.entries

def Pattern.toJson (pattern : Pattern) : Json :=
  .object [
    ("id", .string pattern.id),
    ("name", .string pattern.name),
    ("version", .string pattern.version),
    ("description", .ofString? pattern.description),
    ("steps", .array (pattern.steps.map Step.toJson)),
    ("outputs", pattern.outputs.toJson)]

end Orchestra
