import FormulaCube.Text.Quoted

/-!
# Faults

What can go wrong while values are combined and cells run, other than the errors about cells
themselves. A fault is its cause; the words follow from it.

* `Fault` — the causes.
* `Fault.kind`, `Fault.message` — the name of its kind and its words.
* `Fault.words` — its words, if it can be put in words. The words of an exception come from what it was
  made with and from what its class says about that, and to form them may fail in its turn.
-/

namespace FormulaCube

/-- A cause for which a computation stops. -/
inductive Fault where
  /-- Something of this type was walked through. -/
  | notIterable (type : Text)
  /-- Something of this type was searched for a member. -/
  | notContainer (type : Text)
  /-- Something of this type was looked up or used as a key. -/
  | unhashable (type : Text)
  /-- Something of this type was subscripted. -/
  | notSubscriptable (type : Text)
  /-- An entry of something of this type was assigned. -/
  | noItemAssignment (type : Text)
  /-- An entry of something of this type was deleted. -/
  | noItemDeletion (type : Text)
  /-- Something of this type was called. -/
  | notCallable (type : Text)
  /-- The length of something of this type was asked for. -/
  | noLength (type : Text)
  /-- Two types that are not ordered were compared. -/
  | unorderable (op left right : Text)
  /-- Two types that an operator does not combine. -/
  | operands (op left right : Text)
  /-- A type that a sign or complement does not apply to. -/
  | unaryOperand (op type : Text)
  /-- Something of type `other` was appended to a sequence of type `type`. -/
  | concatenation (type other : Text)
  /-- A sequence was repeated by something of this type. -/
  | repetition (type : Text)
  /-- A sequence of type `type` was indexed by something of type `index`. -/
  | indexType (type index : Text)
  /-- A text was searched for something of this type. -/
  | searchedText (type : Text)
  /-- Entry number `i` of an update is no sequence. -/
  | updateEntry (i : Nat)
  /-- Entry number `i` of an update has this length and not two. -/
  | updateLength (i length : Nat)
  /-- An attribute was named by something of this type. -/
  | attributeName (type : Text)
  /-- A call whose arguments do not fit, in words. -/
  | arguments (words : Text)
  /-- Another misuse of types, in words. -/
  | typeMisuse (words : Text)
  /-- Keys that are no texts were used as names of arguments. -/
  | keywordTypes
  /-- A text that is no integer in a base. -/
  | integerText (base : Nat) (text : Text)
  /-- Another improper value, in words. -/
  | improper (words : Text)
  /-- A source with a null character. -/
  | nullCharacter
  /-- A key that is not there, as it is shown. -/
  | missingKey (shown : Text)
  /-- An index beyond a sequence of this type. -/
  | indexRange (type : Text)
  /-- An index beyond the end, in words. -/
  | rangeWords (words : Text)
  /-- An object of this type has no such attribute. -/
  | noAttribute (type name : Text)
  /-- A missing attribute, in words. -/
  | attributeWords (words : Text)
  /-- A name that is not defined. -/
  | undefinedName (name : Text)
  /-- A name of a function that has no value yet. -/
  | unboundLocal (name : Text)
  /-- A name of an enclosing function that has no value yet. -/
  | unboundFree (name : Text)
  /-- A division by zero, in words. -/
  | zeroDivision (words : Text)
  /-- A result that is too large, in words. -/
  | overflow (words : Text)
  /-- A module that does not exist. -/
  | missingModule (words : Text)
  /-- A name that cannot be taken from a module, in words. -/
  | importing (words : Text)
  /-- A cell without a body of its own was run. -/
  | notImplemented (words : Text)
  /-- A file that does not exist. -/
  | missingFile (path : Text)
  /-- A directory was read as a file. -/
  | directoryFile (path : Text)
  /-- A path that goes through a file. -/
  | notDirectory (path : Text)
  /-- A path with too many bytes, or with a name in it that has too many. -/
  | longPath (path : Text)
  /-- A source that is no valid module. -/
  | syntaxError
  /-- A configuration text that cannot be read. -/
  | unreadableMarkup
  /-- An assertion that failed, in words. -/
  | assertion (words : Text)
  /-- Calls were nested too deeply. -/
  | tooDeep
  /-- A fault that a cell raised itself: the name of its kind and its words. -/
  | raised (kind words : Text)
  /-- A fault that a cell raised itself, of a kind that stands for improper sources. -/
  | raisedSyntax (kind words : Text)
  /-- An exception that a cell raised itself: the name of its kind, its words, whether its kind stands for
  improper sources, and where it is kept. -/
  | thrown (kind words : Text) (ofSource : Bool) (address : Nat)
  /-- An exception that cannot be put in words: the name of its kind, and the fault of the attempt. -/
  | wordless (kind : Text) (reason : Fault)
  deriving DecidableEq, Repr, Inhabited

namespace Fault

/-- The name of the kind of a fault. -/
def kind : Fault → Text
  | .integerText .. | .improper _ | .nullCharacter | .updateLength .. => "ValueError".toList
  | .missingKey _ => "KeyError".toList
  | .indexRange _ | .rangeWords _ => "IndexError".toList
  | .noAttribute .. | .attributeWords _ => "AttributeError".toList
  | .undefinedName _ | .unboundFree _ => "NameError".toList
  | .unboundLocal _ => "UnboundLocalError".toList
  | .zeroDivision _ => "ZeroDivisionError".toList
  | .overflow _ => "OverflowError".toList
  | .missingModule _ => "ModuleNotFoundError".toList
  | .importing _ => "ImportError".toList
  | .notImplemented _ => "NotImplementedError".toList
  | .missingFile _ => "FileNotFoundError".toList
  | .directoryFile _ => "IsADirectoryError".toList
  | .notDirectory _ => "NotADirectoryError".toList
  | .longPath _ => "OSError".toList
  | .syntaxError => "SyntaxError".toList
  | .unreadableMarkup => "YAMLError".toList
  | .assertion _ => "AssertionError".toList
  | .tooDeep => "RecursionError".toList
  | .raised kind _ | .raisedSyntax kind _ | .thrown kind .. | .wordless kind _ => kind
  | _ => "TypeError".toList

/-- The name between apostrophes. -/
private def inMarks (name : Text) : Text := Text.apostrophe :: (name ++ [Text.apostrophe])

/-- The most characters of a text that are quoted where it is no integer. -/
def quotedLimit : Nat := 200

/-- A fault in words, as far as it can be put in words. -/
def message : Fault → Text
  | .notIterable type => inMarks type ++ " object is not iterable".toList
  | .notContainer type => "argument of type ".toList ++ inMarks type ++ " is not iterable".toList
  | .unhashable type => "unhashable type: ".toList ++ inMarks type
  | .notSubscriptable type => inMarks type ++ " object is not subscriptable".toList
  | .noItemAssignment type => inMarks type ++ " object does not support item assignment".toList
  | .noItemDeletion type => inMarks type ++ " object doesn't support item deletion".toList
  | .notCallable type => inMarks type ++ " object is not callable".toList
  | .noLength type => "object of type ".toList ++ inMarks type ++ " has no len()".toList
  | .unorderable op left right =>
    inMarks op ++ " not supported between instances of ".toList ++ inMarks left ++
      " and ".toList ++ inMarks right
  | .operands op left right =>
    "unsupported operand type(s) for ".toList ++ op ++ ": ".toList ++ inMarks left ++
      " and ".toList ++ inMarks right
  | .unaryOperand op type => "bad operand type for unary ".toList ++ op ++ ": ".toList ++ inMarks type
  | .concatenation type other =>
    "can only concatenate ".toList ++ type ++ " (not \"".toList ++ other ++ "\") to ".toList ++ type
  | .repetition type => "can't multiply sequence by non-int of type ".toList ++ inMarks type
  | .indexType type index =>
    if type = "str".toList then "string indices must be integers, not ".toList ++ inMarks index
    else type ++ " indices must be integers or slices, not ".toList ++ index
  | .searchedText type =>
    "'in <string>' requires string as left operand, not ".toList ++ type
  | .updateEntry i =>
    "cannot convert dictionary update sequence element #".toList ++ Text.ofNat i ++
      " to a sequence".toList
  | .updateLength i length =>
    "dictionary update sequence element #".toList ++ Text.ofNat i ++ " has length ".toList ++
      Text.ofNat length ++ "; 2 is required".toList
  | .attributeName type => "attribute name must be string, not ".toList ++ inMarks type
  | .arguments words | .typeMisuse words | .improper words | .rangeWords words
  | .attributeWords words | .zeroDivision words | .overflow words | .missingModule words
  | .importing words | .notImplemented words | .assertion words | .raised _ words
  | .raisedSyntax _ words | .thrown _ words _ _ => words
  | .keywordTypes => "keywords must be strings".toList
  | .integerText base text =>
    "invalid literal for int() with base ".toList ++ Text.ofNat base ++ ": ".toList ++
      (Text.quoted text).take quotedLimit
  | .nullCharacter => "source code string cannot contain null bytes".toList
  | .missingKey shown => shown
  | .indexRange type => type ++ " index out of range".toList
  | .noAttribute type name =>
    inMarks type ++ " object has no attribute ".toList ++ inMarks name
  | .undefinedName name => "name ".toList ++ inMarks name ++ " is not defined".toList
  | .unboundLocal name =>
    "cannot access local variable ".toList ++ inMarks name ++
      " where it is not associated with a value".toList
  | .unboundFree name =>
    "cannot access free variable ".toList ++ inMarks name ++
      " where it is not associated with a value in enclosing scope".toList
  | .missingFile path => "[Errno 2] No such file or directory: ".toList ++ Text.quoted path
  | .directoryFile path => "[Errno 21] Is a directory: ".toList ++ Text.quoted path
  | .notDirectory path => "[Errno 20] Not a directory: ".toList ++ Text.quoted path
  | .longPath path => "[Errno 36] File name too long: ".toList ++ Text.quoted path
  | .syntaxError | .unreadableMarkup | .wordless .. => []
  | .tooDeep => "maximum recursion depth exceeded while calling a Python object".toList

/-- The words of a fault, or the fault of the attempt to form them. -/
def words : Fault → Except Fault Text
  | .wordless _ reason => .error reason
  | f => .ok f.message

/-- The fault of a key that is not there, which is put in words as the key would be written. -/
def missing : Except Fault Text → Fault
  | .ok shown => .missingKey shown
  | .error reason => .wordless "KeyError".toList reason

end Fault

/-- Outcomes are compared by their faults or results. -/
instance decidableEqExcept {ε α : Type} [DecidableEq ε] [DecidableEq α] : DecidableEq (Except ε α)
  | .ok a, .ok b => decidable_of_iff (a = b) ⟨congrArg Except.ok, Except.ok.inj⟩
  | .error e, .error f => decidable_of_iff (e = f) ⟨congrArg Except.error, Except.error.inj⟩
  | .ok _, .error _ => isFalse nofun
  | .error _, .ok _ => isFalse nofun

end FormulaCube
