import SqlDraft.Library

/-!
# Sessions with a library

One directory, and any number of providers that hand out its templates.  Providers go by a name;
while a session goes on the directory changes under their hands.

* `Session.step`: one step of a session, and what it yields.
-/

namespace SqlDraft.Library

/-- A directory and the providers for it; of several with one name the first one counts. -/
structure Session where
  directory : Text
  tree : Files.Tree
  providers : List (Text × Provider) := []
  deriving DecidableEq, Repr

/-- What can be done in a session. -/
inductive Session.Step
  /-- The directory changes. -/
  | change (change : Files.Change)
  /-- The directory is read for once. -/
  | load
  /-- A new provider. -/
  | provide (name : Text) (cache : Bool)
  /-- A provider hands out templates. -/
  | templates (name : Text)
  deriving DecidableEq, Repr

/-- What a step yields. -/
inductive Session.Yield
  | nothing
  | loaded (templates : List Text)
  /-- Templates, and whether they are the object that the provider handed out before. -/
  | handedOut (templates : List Text) (same : Bool)
  | failed (fault : Fault)
  /-- There is no provider of this name. -/
  | unknown (name : Text)
  deriving DecidableEq, Repr

namespace Session

/-- The provider of a name. -/
def provider? (session : Session) (name : Text) : Option Provider :=
  (session.providers.find? fun entry => entry.1 == name).map (·.2)

/-- The session with another provider under a name. -/
def withProvider (session : Session) (name : Text) (provider : Provider) : Session :=
  { session with providers := (name, provider) :: session.providers }

/-- One step: what it yields, what the log says, and the session afterwards. -/
def step (session : Session) : Step → Yield × List Log.Record × Session
  | .change change =>
    match change.fault? session.directory session.tree with
    | some fault => (.failed (.file fault), [], session)
    | none => (.nothing, [], { session with tree := change.apply session.tree })
  | .load =>
    match Library.load session.directory session.tree with
    | .ok templates => (.loaded templates, [Library.loaded session.directory templates], session)
    | .error fault => (.failed fault, [], session)
  | .provide name cache =>
    (.nothing, [], session.withProvider name { directory := session.directory, cache })
  | .templates name =>
    match session.provider? name with
    | none => (.unknown name, [], session)
    | some provider =>
      match provider.templates session.tree with
      | (.ok edition, after, records) =>
        (.handedOut edition.templates (provider.isSame edition), records,
          session.withProvider name after)
      | (.error fault, after, records) =>
        (.failed fault, records, session.withProvider name after)

end Session

end SqlDraft.Library
