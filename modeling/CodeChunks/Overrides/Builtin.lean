import CodeChunks.Overrides.Basic
import CodeChunks.Taxonomy.Basic

/-!
# The overrides that are always there
-/

namespace CodeChunks.Overrides

def pythonKinds : List (String × CoreClass) :=
  [("import_statement", .boundaryModule),
   ("import_from_statement", .boundaryModule),
   ("future_import_statement", .boundaryModule),
   ("try_statement", .boundaryError),
   ("raise_statement", .boundaryError),
   ("except_clause", .boundaryError),
   ("assert_statement", .boundaryError),
   ("for_statement", .flowIteration),
   ("while_statement", .flowIteration),
   ("return_statement", .flowControl),
   ("break_statement", .flowControl),
   ("continue_statement", .flowControl),
   ("await", .flowAsync),
   ("lambda", .expressionAnonymous),
   ("call", .operationInvocation),
   ("decorator", .syntaxMarker)]

def rustKinds : List (String × CoreClass) :=
  [("use_declaration", .boundaryModule),
   ("mod_item", .boundaryModule),
   ("extern_crate_declaration", .boundaryModule),
   ("try_expression", .boundaryError),
   ("for_expression", .flowIteration),
   ("while_expression", .flowIteration),
   ("loop_expression", .flowIteration),
   ("return_expression", .flowControl),
   ("break_expression", .flowControl),
   ("continue_expression", .flowControl),
   ("await_expression", .flowAsync),
   ("async_block", .flowAsync),
   ("closure_expression", .expressionAnonymous),
   ("call_expression", .operationInvocation),
   ("macro_invocation", .operationInvocation),
   ("macro_definition", .definitionCallable),
   ("attribute_item", .syntaxMarker),
   ("inner_attribute_item", .syntaxMarker)]

def scriptKinds : List (String × CoreClass) :=
  [("import_statement", .boundaryModule),
   ("export_statement", .boundaryModule),
   ("try_statement", .boundaryError),
   ("throw_statement", .boundaryError),
   ("catch_clause", .boundaryError),
   ("for_statement", .flowIteration),
   ("for_in_statement", .flowIteration),
   ("while_statement", .flowIteration),
   ("do_statement", .flowIteration),
   ("return_statement", .flowControl),
   ("break_statement", .flowControl),
   ("continue_statement", .flowControl),
   ("await_expression", .flowAsync),
   ("arrow_function", .expressionAnonymous),
   ("call_expression", .operationInvocation),
   ("new_expression", .operationInvocation),
   ("decorator", .syntaxMarker)]

def goKinds : List (String × CoreClass) :=
  [("import_declaration", .boundaryModule),
   ("for_statement", .flowIteration),
   ("go_statement", .flowAsync),
   ("select_statement", .flowAsync),
   ("return_statement", .flowControl),
   ("break_statement", .flowControl),
   ("continue_statement", .flowControl),
   ("goto_statement", .flowControl),
   ("func_literal", .expressionAnonymous),
   ("call_expression", .operationInvocation)]

def javaKinds : List (String × CoreClass) :=
  [("import_declaration", .boundaryModule),
   ("package_declaration", .boundaryModule),
   ("try_statement", .boundaryError),
   ("throw_statement", .boundaryError),
   ("catch_clause", .boundaryError),
   ("try_with_resources_statement", .boundaryResource),
   ("for_statement", .flowIteration),
   ("enhanced_for_statement", .flowIteration),
   ("while_statement", .flowIteration),
   ("do_statement", .flowIteration),
   ("lambda_expression", .expressionAnonymous),
   ("method_invocation", .operationInvocation),
   ("annotation", .syntaxMarker),
   ("marker_annotation", .syntaxMarker)]

def cFamilyKinds : List (String × CoreClass) :=
  [("preproc_include", .boundaryModule),
   ("for_statement", .flowIteration),
   ("while_statement", .flowIteration),
   ("do_statement", .flowIteration),
   ("return_statement", .flowControl),
   ("break_statement", .flowControl),
   ("continue_statement", .flowControl),
   ("goto_statement", .flowControl),
   ("call_expression", .operationInvocation)]

def cppKinds : List (String × CoreClass) :=
  [("namespace_definition", .boundaryModule),
   ("try_statement", .boundaryError),
   ("throw_statement", .boundaryError),
   ("lambda_expression", .expressionAnonymous)]

def rubyKinds : List (String × CoreClass) :=
  [("method", .definitionCallable),
   ("singleton_method", .definitionCallable),
   ("class", .definitionType),
   ("module", .boundaryModule),
   ("begin", .boundaryError),
   ("rescue", .boundaryError),
   ("ensure", .boundaryError),
   ("for", .flowIteration),
   ("while", .flowIteration),
   ("until", .flowIteration),
   ("call", .operationInvocation),
   ("lambda", .expressionAnonymous),
   ("do_block", .expressionAnonymous)]

/-- The direct mappings, by the languages they apply to. -/
def builtinMappings : List (List Language × List (String × CoreClass)) :=
  [([.python], pythonKinds),
   ([.rust], rustKinds),
   ([.javaScript, .javaScriptReact, .typeScript, .typeScriptReact], scriptKinds),
   ([.go], goKinds),
   ([.java], javaKinds),
   ([.c, .cpp], cFamilyKinds),
   ([.cpp], cppKinds),
   ([.ruby], rubyKinds)]

/-- Names of component markup. -/
def markupPatterns : List (String × CodeClass × String) :=
  [(r"(?P<jsx_element>(j|t)sx.*element)", Taxonomy.markupClass, "jsx_element"),
   (r"(?P<react_hook>use[A-Z][a-zA-Z]*)", .core .operationInvocation, "react_hook"),
   (r"(?P<component_name>.*Component$)", .core .definitionCallable, "component_name"),
   (r".*Hook$", .core .syntaxIdentifier, "hook_name")]

/-- The patterns, by language. -/
def builtinPatterns : List (Language × List (String × CodeClass × String)) :=
  [(.javaScriptReact, markupPatterns),
   (.typeScriptReact, markupPatterns),
   (.rust,
    [(r"(?P<trait_or_impl_item>(impl|trait|struct|enum).*item)", .core .definitionType,
        "trait_or_impl_item"),
     (r"(?P<lifetime>.*lifetime.*)", .core .syntaxMarker, "lifetime"),
     (r"(?P<generic_param>generic.*param)", .core .definitionType, "generic_param")]),
   (.python,
    [(r"(?P<comprehension>(list|set|dict|mapping|generator|tuple).*(comprehension|expression))",
        .core .expressionAnonymous, "comprehension"),
     (r"with.*statement", .core .boundaryResource, "with_statement")]),
   (.go,
    [(r"package.*clause", .core .boundaryModule, "package"),
     (r"type.*decl", .core .definitionType, "type_decl"),
     (r"defer.*statement", .core .boundaryResource, "defer")])]

def addMappings (o : Overrides) (l : Language) (kinds : List (String × CoreClass)) : Overrides :=
  kinds.foldl (fun o (kind, c) => o.map l kind (.core c)) o

/-- Adds patterns that ignore case; one that does not parse is left out. -/
def addPatterns (o : Overrides) (l : Language) (patterns : List (String × CodeClass × String)) :
    Overrides :=
  patterns.foldl (fun o (source, c, label) =>
    match o.register l source c label false with
    | .ok o => o
    | .error _ => o) o

def builtin : Overrides :=
  let o := builtinMappings.foldl (fun o (languages, kinds) =>
    languages.foldl (fun o l => o.addMappings l kinds) o) empty
  builtinPatterns.foldl (fun o (l, patterns) => o.addPatterns l patterns) o

end CodeChunks.Overrides
