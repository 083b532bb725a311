import FlowRules.Fault
import FlowRules.Pattern.Search

/-!
# Guidance

For each fault there is guidance: what has happened, why, and what can be done.  It is chosen by searching the kind
and the message of the fault for patterns, in order and in either case; the first that is found decides.  What no
pattern fits is unexpected, and its message is shown in full.
-/

namespace FlowRules

structure Guidance where
  title : String
  explanation : String
  actions : List String
  documentation : Option String := none
  /-- The message is shown as it is. -/
  technical : Bool := false
  deriving DecidableEq, Repr

namespace Guidance

/-- The patterns and the guidance that each leads to. -/
def table : List (String × Guidance) :=
  [("ConditionSyntaxError",
      { title := "Condition could not be parsed"
        explanation :=
          "A step's 'condition' is not a valid boolean expression. Conditions may use flow.<field>, " ++
            "state[\"key\"], comparisons, and/or/not."
        actions :=
          ["Check quoting of string literals in the condition",
            "Validate the workflow: rule-pipeline check <workflow>"]
        documentation := some "README.md#conditions" }),
    ("ConditionEvaluationError",
      { title := "Condition failed at runtime"
        explanation := "The condition compiled but raised while being evaluated against the flow object."
        actions :=
          ["Check the types of the fields the condition compares",
            "Guard optional fields, e.g. flow.total != null and flow.total > 10"] }),
    ("UnsupportedOperatorError",
      { title := "Unknown validation operator"
        explanation := "A Simple validation step names an operator the engine does not implement."
        actions :=
          ["Use one of: equals, notequals, greaterthan, greaterthanorequal, lessthan, lessthanorequal, between, " ++
            "contains, startswith, endswith, regex, isnull, isnotnull, listcontains, listcount"] }),
    ("MissingImplementationError",
      { title := "Rule implementation not registered"
        explanation := "A step refers to an implementationKey that no plugin registered."
        actions :=
          ["Load the plugin that registers it: --plugin <module>",
            "Add the module to 'plugins' in rule-pipeline.yaml",
            "Check the key for typos (keys are case-sensitive)"] }),
    ("WorkflowNotFoundError|SubFlow .* not found",
      { title := "Workflow definition missing"
        explanation := "A workflow or referenced sub-flow has no JSON file in the workflows directory."
        actions :=
          ["List available workflows: rule-pipeline list",
            "Check workflows_dir in rule-pipeline.yaml or pass --workflows-dir"] }),
    ("WorkflowDefinitionError|JSONDecodeError",
      { title := "Workflow definition is invalid"
        explanation := "The workflow JSON could not be parsed or a step is missing required fields."
        actions :=
          ["SubFlow and Foreach steps need 'subFlowRef'",
            "Simple validations need 'targetProperty' and 'operator'",
            "Validate the workflow: rule-pipeline check <workflow>"] })]

/-- The guidance for what no pattern fits. -/
def unexpected (message : String) : Guidance :=
  { title := "Unexpected error"
    explanation := message
    actions :=
      ["Re-run with --log-level DEBUG for the full traceback", "Check the rule implementation that was executing"]
    technical := true }

/-- Whether a pattern is found in a text, in either case. -/
def fits (pattern text : String) : Bool :=
  match Pattern.search ("(?i)" ++ pattern) text with
  | .ok found => found
  | .error _ => false

/-- The guidance for a fault with this kind and message. -/
def select (kind message : String) : Guidance :=
  match table.find? fun entry => fits entry.1 (kind ++ ": " ++ message) with
  | some entry => entry.2
  | none => unexpected message

def ofFault (f : Fault) : Guidance := select f.kind f.message

private def numbered (actions : List String) : String :=
  String.join (actions.zipIdx.map fun entry => "  " ++ toString (entry.2 + 1) ++ ". " ++ entry.1 ++ "\n")

/-- The guidance as marked-up text, where `message` is that of the fault. -/
def format (g : Guidance) (message : String) : String :=
  "[bold red]" ++ g.title ++ "[/]\n\n" ++ g.explanation ++ "\n\n[bold]How to fix:[/]\n" ++ numbered g.actions ++
    (match g.documentation with
      | none => ""
      | some place => "\n[dim]Learn more: " ++ place ++ "[/]") ++
    if g.technical then "\n\n[dim]Technical details:[/]\n[dim]" ++ message ++ "[/]" else ""

end Guidance
end FlowRules
