import Schematic.Problem

/-!
# Errors

A schema error says why a type has no schema or why a document could not be
written; its message is safe to show. Technical details, where there are any,
travel beside the error and never enter the message. The other failures come
from malformed input on the way: a record that does not validate, an integer too
long to convert, a value that cannot be hashed, an annotation that cannot be
evaluated.
-/

namespace Schematic

/-- The rule by which a type is rejected. -/
inductive Rejection where
  | complexUnion
  | tuple
  | intersection
  | unsupported
  | other (name : String)
  deriving DecidableEq, Repr

namespace Rejection

def name : Rejection → String
  | complexUnion => "complex union"
  | tuple => "tuple"
  | intersection => "intersection"
  | unsupported => "unsupported"
  | other name => name

def ofName (name : String) : Rejection :=
  match [complexUnion, tuple, intersection, unsupported].find? (·.name = name) with
  | some rejection => rejection
  | none => other name

def message (typeName : String) : Rejection → String
  | complexUnion =>
    "Complex union types are not supported. Only literal type unions (enums) are supported: " ++
      typeName
  | tuple => "Tuple types are not supported: " ++ typeName
  | intersection => "Intersection types are not supported: " ++ typeName
  | unsupported | other _ => "Unsupported type: " ++ typeName

end Rejection

inductive SchemaError where
  /-- An error of no particular kind. -/
  | general (message : String)
  /-- A type that cannot be compiled, for no particular reason. -/
  | compilation (message : String)
  | unsupportedType (rejection : Rejection) (typeName : String)
  /-- A required member is marked to be ignored. -/
  | ignoreConflict (property : String)
  /-- A struct is reached again while it is open; `path` lists the open structs, outermost first. -/
  | recursiveType (typeName : String) (path : List String)
  | exportFailed (outputPath : String)
  deriving DecidableEq, Repr

namespace SchemaError

/-- A recursion error whose path, if empty, is the type alone. -/
def recursive (typeName : String) (path : List String) : SchemaError :=
  recursiveType typeName (if path.isEmpty then [typeName] else path)

def message : SchemaError → String
  | general message => message
  | compilation message => message
  | unsupportedType rejection typeName => rejection.message typeName
  | ignoreConflict property => "Cannot ignore required property: " ++ property
  | recursiveType _ path => "Recursive types are not supported: " ++ " -> ".intercalate path
  | exportFailed outputPath => "Cannot write schema to: " ++ outputPath

/-- Whether the error is final for a type: compiling it again fails in the same way. -/
def isCompilationError : SchemaError → Bool
  | general _ | exportFailed _ => false
  | _ => true

end SchemaError

/-- Why an operation ended without a result. -/
inductive Failure where
  /-- A schema error with technical details; empty details are none. -/
  | schema (error : SchemaError) (details : String)
  | invalid (problems : List Problem)
  /-- An integer of more digits than are converted. -/
  | overlongInteger
  /-- A value of the named kind was to be looked up in a hash table. -/
  | unhashable (kind : String)
  /-- The value of a type was asked for that is no literal of a single value. -/
  | notSingleLiteral (typeName : String)
  /-- An annotation names an attribute that its owner lacks. -/
  | noAttribute (owner name : String)
  /-- An annotation names a member that its enumeration lacks. -/
  | noMember (name : String)
  /-- An annotation uses a name without a meaning. -/
  | unknownName (name : String)
  /-- An annotation misuses an object. -/
  | typeFault (message : String)
  /-- An annotation looks up a key that is not there; the key is given as it is shown. -/
  | missingKey (shown : String)
  /-- An annotation looks up a position beyond the end. -/
  | outOfRange (message : String)
  | zeroDivision (message : String)
  /-- A number leaves the range of doubles. -/
  | overflow (message : String)
  /-- An annotation gives an operation a value that it does not take. -/
  | unacceptable
  /-- An annotation is no expression. -/
  | malformedExpression
  /-- The evaluation of an annotation raises an exception of another class. -/
  | raised (exception : String)
  /-- A path holds a null character. -/
  | malformedPath
  /-- A text nests more containers than there is room for. -/
  | exhausted
  /-- A type leads to itself without passing through a struct, or a text to ever longer ones. -/
  | unbounded
  deriving DecidableEq, Repr

namespace Failure

def ofError (error : SchemaError) : Failure :=
  schema error ""

/-- The message of a failure that has one. -/
def message? : Failure → Option String
  | schema error _ => some error.message
  | unhashable kind => some ("unhashable type: '" ++ kind ++ "'")
  | notSingleLiteral typeName => some ("Not a single-value literal type: " ++ typeName)
  | noMember name => some name
  | unknownName name => some ("name '" ++ name ++ "' is not defined")
  | typeFault message => some message
  | missingKey shown => some shown
  | outOfRange message | zeroDivision message | overflow message => some message
  | noAttribute owner name => some (owner ++ " has no attribute '" ++ name ++ "'")
  | _ => none

end Failure

end Schematic
