/-!
The words of the script language that mean something to its grammar. `reserved` words are never
names; the others are names wherever the grammar has no other use for them.
-/
namespace ModuleBundler.Script

inductive Keyword where
  | awaitWord | breakWord | caseWord | catchWord | classWord | constWord | continueWord
  | debuggerWord | defaultWord | deleteWord | doWord | elseWord | enumWord | exportWord
  | extendsWord | falseWord | finallyWord | forWord | functionWord | ifWord | importWord | inWord
  | instanceofWord | newWord | nullWord | returnWord | superWord | switchWord | thisWord
  | throwWord | trueWord | tryWord | typeofWord | varWord | voidWord | whileWord | withWord
  | yieldWord
  | letWord | staticWord | implementsWord | interfaceWord | packageWord | privateWord
  | protectedWord | publicWord
  | abstractWord | accessorWord | anyWord | asWord | assertWord | assertsWord | asyncWord
  | bigintWord | booleanWord | constructorWord | declareWord | deferWord | fromWord | getWord
  | globalWord | inferWord | intrinsicWord | isWord | keyofWord | metaWord | moduleWord
  | namespaceWord | neverWord | numberWord | objectWord | ofWord | outWord | overrideWord
  | readonlyWord | requireWord | satisfiesWord | setWord | sourceWord | stringWord | symbolWord
  | targetWord | typeWord | undefinedWord | uniqueWord | unknownWord | usingWord
deriving DecidableEq

namespace Keyword

def reservedWords : List (Keyword × String) := [
  (.awaitWord, "await"), (.breakWord, "break"), (.caseWord, "case"), (.catchWord, "catch"),
  (.classWord, "class"), (.constWord, "const"), (.continueWord, "continue"),
  (.debuggerWord, "debugger"), (.defaultWord, "default"), (.deleteWord, "delete"),
  (.doWord, "do"), (.elseWord, "else"), (.enumWord, "enum"), (.exportWord, "export"),
  (.extendsWord, "extends"), (.falseWord, "false"), (.finallyWord, "finally"), (.forWord, "for"),
  (.functionWord, "function"), (.ifWord, "if"), (.importWord, "import"), (.inWord, "in"),
  (.instanceofWord, "instanceof"), (.newWord, "new"), (.nullWord, "null"),
  (.returnWord, "return"), (.superWord, "super"), (.switchWord, "switch"), (.thisWord, "this"),
  (.throwWord, "throw"), (.trueWord, "true"), (.tryWord, "try"), (.typeofWord, "typeof"),
  (.varWord, "var"), (.voidWord, "void"), (.whileWord, "while"), (.withWord, "with"),
  (.yieldWord, "yield")]

def strictWords : List (Keyword × String) := [
  (.letWord, "let"), (.staticWord, "static"), (.implementsWord, "implements"),
  (.interfaceWord, "interface"), (.packageWord, "package"), (.privateWord, "private"),
  (.protectedWord, "protected"), (.publicWord, "public")]

def contextualWords : List (Keyword × String) := [
  (.abstractWord, "abstract"), (.accessorWord, "accessor"), (.anyWord, "any"), (.asWord, "as"),
  (.assertWord, "assert"), (.assertsWord, "asserts"), (.asyncWord, "async"),
  (.bigintWord, "bigint"), (.booleanWord, "boolean"), (.constructorWord, "constructor"),
  (.declareWord, "declare"), (.deferWord, "defer"), (.fromWord, "from"), (.getWord, "get"),
  (.globalWord, "global"), (.inferWord, "infer"), (.intrinsicWord, "intrinsic"), (.isWord, "is"),
  (.keyofWord, "keyof"), (.metaWord, "meta"), (.moduleWord, "module"),
  (.namespaceWord, "namespace"), (.neverWord, "never"), (.numberWord, "number"),
  (.objectWord, "object"), (.ofWord, "of"), (.outWord, "out"), (.overrideWord, "override"),
  (.readonlyWord, "readonly"), (.requireWord, "require"), (.satisfiesWord, "satisfies"),
  (.setWord, "set"), (.sourceWord, "source"), (.stringWord, "string"), (.symbolWord, "symbol"),
  (.targetWord, "target"), (.typeWord, "type"), (.undefinedWord, "undefined"),
  (.uniqueWord, "unique"), (.unknownWord, "unknown"), (.usingWord, "using")]

def spellings : List (Keyword × String) := reservedWords ++ strictWords ++ contextualWords

def table : List (List Char × Keyword) := spellings.map fun (k, s) => (s.toList, k)

def ofChars? (text : List Char) : Option Keyword :=
  (table.find? fun entry => entry.1 == text).map (·.2)

def isReserved (k : Keyword) : Bool := reservedWords.any (·.1 == k)

def isStrict (k : Keyword) : Bool := strictWords.any (·.1 == k)

def isModifier : Keyword → Bool
  | .abstractWord | .accessorWord | .asyncWord | .constWord | .declareWord | .defaultWord
  | .exportWord | .inWord | .outWord | .publicWord | .privateWord | .protectedWord
  | .overrideWord | .readonlyWord | .staticWord => true
  | _ => false

def isAccess : Keyword → Bool
  | .publicWord | .privateWord | .protectedWord => true
  | _ => false

def isTypeName : Keyword → Bool
  | .anyWord | .bigintWord | .booleanWord | .neverWord | .numberWord | .objectWord | .stringWord
  | .symbolWord | .undefinedWord | .unknownWord => true
  | _ => false

/-- A word that may name a variable, `yield` and `await` being settled by the context. -/
def isBinding (k : Keyword) : Bool := !k.isReserved || k == .yieldWord || k == .awaitWord

end Keyword

end ModuleBundler.Script
