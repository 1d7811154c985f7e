/-
# ConsoleView.Component.Link -- anchors to roles, environments, jobs and tasks

A destination is a root and the segments of its variant, each behind a slash;
slashes at the end of the root do not count.  A role or environment that is not
there leaves its segment empty.  Segments are not escaped for use in a URL.
-/
import ConsoleView.Json.Record
import ConsoleView.Markup.Basic
import ConsoleView.Registry.Table
import ConsoleView.Settings.Basic

namespace ConsoleView

set_option autoImplicit false

open Json

/-! ## What a link points at -/

/-- A navigable entity: its shown value, and the role and environment of the row it stands in. -/
structure LinkTarget where
  value : String := ""
  role : Option String := none
  environment : Option String := none
deriving DecidableEq, Repr, Inhabited

def LinkTarget.shape : RecordShape LinkTarget where
  name := "LinkTarget"
  blank := {}
  fields := [
    Field.of "value" Codec.string LinkTarget.value fun t value => { t with value },
    Field.of "role" (.option .string) LinkTarget.role fun t role => { t with role },
    Field.of "environment" (.option .string) LinkTarget.environment
      fun t environment => { t with environment }]

def LinkTarget.codec : Codec LinkTarget := LinkTarget.shape.codec

/-! ## Where it leads -/

inductive LinkVariant where
  | role
  | roleEnv
  | job
  | task
deriving DecidableEq, Repr, Inhabited

namespace LinkVariant

def all : List LinkVariant := [role, roleEnv, job, task]

def component : LinkVariant → Component
  | role => .roleLink
  | roleEnv => .roleEnvLink
  | job => .jobLink
  | task => .taskLink

/-- The variant a component makes links of. -/
def ofComponent? : Component → Option LinkVariant
  | .roleLink => some role
  | .roleEnvLink => some roleEnv
  | .jobLink => some job
  | .taskLink => some task
  | _ => none

theorem ofComponent?_component (v : LinkVariant) : ofComponent? v.component = some v := by
  cases v <;> rfl

def root (v : LinkVariant) (settings : LinkSettings) : String :=
  match v with
  | task => settings.taskRoot
  | role | roleEnv | job => settings.schedulerRoot

def segments (v : LinkVariant) (target : LinkTarget) : List String :=
  let role := target.role.getD ""
  let environment := target.environment.getD ""
  match v with
  | .role | task => [target.value]
  | roleEnv => [role, target.value]
  | job => [role, environment, target.value]

end LinkVariant

def dropEndSlashes (cs : List Char) : List Char := (cs.reverse.dropWhile (· == '/')).reverse

def joinSegments (root : String) (segments : List String) : String :=
  String.ofList (dropEndSlashes root.toList ++ segments.flatMap fun s => '/' :: s.toList)

def linkHref (settings : LinkSettings) (v : LinkVariant) (target : LinkTarget) : String :=
  joinSegments (v.root settings) (v.segments target)

/-- The anchor of a link; its text is the value.  A task opens in the frame it is shown in. -/
def linkAnchor (settings : LinkSettings) (v : LinkVariant) (target : LinkTarget) : Element :=
  let anchor := Element.named "a"
  let href := linkHref settings v target
  match v with
  | .task =>
      let wide := (anchor.withClass "col-md-8").withAttribute "href" href
      (wide.withAttribute "target" "_self").withText target.value
  | .role | .roleEnv | .job => (anchor.withAttribute "href" href).withText target.value

end ConsoleView
