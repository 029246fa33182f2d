import LayeredConfig.Descriptor.Convert
import LayeredConfig.Schema.Loader
import LayeredConfig.Source.Resolve

/-!
# Providers

A provider keeps a source and resolves it anew each time it is asked: for the configuration itself,
for one that has a described shape, or for a record that the caller reads from it.
-/

namespace LayeredConfig

/-- What can go wrong between a schema and a configuration. -/
inductive Error where
  | schema (cause : SchemaError)
  | resolution (cause : ResolveError)
  | validation (cause : ValidationError)
  | record

/-- The wording of an error, where it does not quote a reader. -/
def Error.message? : Error → Option String
  | schema cause => cause.message?.map ("schema error: " ++ ·)
  | resolution cause => cause.message?.map ("configuration error: " ++ ·)
  | validation cause => some ("invalid configuration: " ++ cause.message)
  | record => none

/-- Gives the configuration of a source. -/
structure Provider where
  source : Source

namespace Provider

/-- A part from which a provider is built. -/
inductive Input where
  | schema (node : Json)
  | source (source : Source)

/-- The source of an input. -/
def Input.load (loader : Loader) : Input → Except SchemaError Source
  | schema node => loader.loadSource node
  | source given => .ok given

/-- The provider of a schema with the types and functions of this library. -/
def ofSchema (node : Json) : Except Error Provider :=
  match Loader.builtins.loadSource node with
  | .ok source => .ok ⟨source⟩
  | .error e => .error (.schema e)

/-- The sources of some inputs, or the first fault. -/
def loadInputs (loader : Loader) : List Input → Except SchemaError (List Source)
  | [] => .ok []
  | input :: inputs => match input.load loader with
    | .error e => .error e
    | .ok source => match loadInputs loader inputs with
      | .error e => .error e
      | .ok sources => .ok (source :: sources)

/-- One source as it is, and several merged. -/
def combine : List Source → Source
  | [source] => source
  | sources => .merging sources .raise

/-- The provider of some inputs, of which later ones count more. -/
def ofInputs (loader : Loader) (inputs : List Input) : Except Error Provider :=
  match loadInputs loader inputs with
  | .ok sources => .ok ⟨combine sources⟩
  | .error e => .error (.schema e)

/-- The entries of a value that must be a map. -/
def requireMap (v : Value) : Except ResolveError (Entries Value) :=
  match v.entries? with
  | some entries => .ok entries
  | none => .error (.notAMapping v.kind)

/-- The configuration, which must be a map. -/
def provide (p : Provider) (w : World) : Except ResolveError (Entries Value) :=
  match p.source.resolve w with
  | .ok v => requireMap v
  | .error e => .error e

/-- The configuration in the shape of a descriptor. -/
def provideValidated (p : Provider) (w : World) (d : Descriptor) : Except Error (Entries Value) :=
  match p.provide w with
  | .error e => .error (.resolution e)
  | .ok entries => match d.convert (.map entries) with
    | .error e => .error (.validation e)
    | .ok v => match requireMap v with
      | .error e => .error (.resolution e)
      | .ok entries => .ok entries

/-- The record that a reader finds in the configuration. -/
def extract {α : Type} (p : Provider) (w : World) (reader : Json → Option α) : Except Error α :=
  match p.provide w with
  | .error e => .error (.resolution e)
  | .ok entries => match reader (Value.map entries).toJson with
    | some a => .ok a
    | none => .error .record

end Provider

end LayeredConfig
