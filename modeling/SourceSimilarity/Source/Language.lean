import SourceSimilarity.Path

namespace SourceSimilarity

inductive Language where
  | c
  | java
deriving DecidableEq, Repr

namespace Language

def all : List Language := [.c, .java]

def name : Language → String
  | .c => "C"
  | .java => "Java"

def extension : Language → String
  | .c => ".c"
  | .java => ".java"

def ofPath? (path : String) : Option Language :=
  all.find? fun language => Path.extension path.toList == language.extension.toList

/-- The nodes that are one token although they have children: literals. -/
def atomicTypes : Language → List String
  | .c => ["string_literal", "char_literal", "system_lib_string"]
  | .java => ["string_literal", "character_literal", "text_block"]

def isAtomic (language : Language) (type : String) : Bool := language.atomicTypes.contains type

/-- The parents below which an identifier names something other than a variable. -/
def nameParents : Language → List String
  | .c => ["enumerator", "macro_type_specifier", "attribute", "preproc_def", "preproc_function_def",
      "preproc_params", "preproc_defined", "preproc_ifdef", "preproc_call"]
  | .java => ["class_declaration", "interface_declaration", "enum_declaration",
      "record_declaration", "annotation_type_declaration", "annotation_type_element_declaration",
      "method_declaration", "constructor_declaration", "compact_constructor_declaration",
      "enum_constant",
      "scoped_identifier", "package_declaration", "import_declaration", "module_declaration",
      "annotation", "marker_annotation", "element_value_pair", "labeled_statement",
      "break_statement", "continue_statement"]

def memberPositions : Language → List (String × String)
  | .c => [("field_identifier", "field_expression")]
  | .java => []

def isVariableUse (language : Language) (type : String) (parent : Option String) : Bool :=
  parent.any (fun parent => language.memberPositions.contains (type, parent)) ||
    (type == "identifier" && !parent.any fun parent => language.nameParents.contains parent)

end Language

end SourceSimilarity
