import Provisioner.Gateway.Call

/-!
# Scripted answers

A script answers calls in their order, whatever they are about: with a document, which has to have the shape of
the call's result, or with an error.
-/
namespace Provisioner

/-- One answer of a script. -/
inductive ScriptEntry where
  | result (document : Json)
  | failure (error : GatewayError)

/-- Answers in the order of the calls. -/
abbrev Script := List ScriptEntry

namespace Script

/-- The answer of a script to a call, and the answers that remain. -/
def answer (c : Call) : Script → Except GatewayError c.Result × Script
  | [] => (.error (.api 404 "script exhausted"), [])
  | .failure error :: rest => (.error error, rest)
  | .result document :: rest =>
    ((c.resultShape.ofJson document).mapError fun error => .decode error.message, rest)

end Script

end Provisioner
