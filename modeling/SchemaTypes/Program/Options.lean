import SchemaTypes.Config
set_option autoImplicit false

/-!
The arguments of the command line: the schema files or web addresses to load, in order, and the
options that set the configuration and the output file. An option that takes a value takes the
next argument or the text after `=` (or, for `-o`, the rest of the argument); `--` ends the options.
-/

namespace SchemaTypes.Program

/-- What the command line asks to do when it asks to render. -/
structure Options where
  inputs : List String := []
  config : Config := {}
  output : Option String := none
  deriving Repr, DecidableEq, Inhabited

/-- What the command line asks for. -/
inductive Request where
  | render (opts : Options)
  | help
  | version
  deriving Repr, DecidableEq, Inhabited

def versionText : String := "xsd-typings 0.1.0\n"

def usageText : String :=
  "Generates TypeScript declarations for parsed XML trees from XSD schema files\n\n" ++
  "Usage: xsd-typings [OPTIONS] <INPUTS>...\n\n" ++
  "Arguments:\n" ++
  "  <INPUTS>...  The schema files or URLs, loaded in order\n\n" ++
  "Options:\n" ++
  "      --strip-prefix <PREFIX>\n" ++
  "          Remove a prefix from names before they become identifiers (repeatable)\n" ++
  "      --attribute-prefix <ATTRIBUTE_PREFIX>\n" ++
  "          The prefix the XML parser uses for attributes [default: @_]\n" ++
  "      --text-node-name <TEXT_NODE_NAME>\n" ++
  "          The property the XML parser stores text under [default: #text]\n" ++
  "      --allow-dtd\n" ++
  "          Allow a XML Document Type Definition (DTD) to occur\n" ++
  "  -o, --output <OUTPUT>\n" ++
  "          Write the declarations to this file instead of stdout\n" ++
  "  -h, --help\n" ++
  "          Print help\n" ++
  "  -V, --version\n" ++
  "          Print version\n"

/-- The options that take a value, by long name. -/
inductive ValueOption where
  | stripPrefix
  | attributePrefix
  | textNodeName
  | output
  deriving Repr, DecidableEq, Inhabited

def ValueOption.ofName? : String → Option ValueOption
  | "strip-prefix" => some .stripPrefix
  | "attribute-prefix" => some .attributePrefix
  | "text-node-name" => some .textNodeName
  | "output" => some .output
  | _ => none

def ValueOption.display : ValueOption → String
  | .stripPrefix => "--strip-prefix <PREFIX>"
  | .attributePrefix => "--attribute-prefix <ATTRIBUTE_PREFIX>"
  | .textNodeName => "--text-node-name <TEXT_NODE_NAME>"
  | .output => "--output <OUTPUT>"

def Options.set (opts : Options) : ValueOption → String → Options
  | .stripPrefix, v => { opts with config.stripPrefixes := opts.config.stripPrefixes ++ [v] }
  | .attributePrefix, v => { opts with config.attributePrefix := v }
  | .textNodeName, v => { opts with config.textNodeName := v }
  | .output, v => { opts with output := some v }

def Options.addInputs (opts : Options) (args : List String) : Options :=
  { opts with inputs := opts.inputs ++ args }

def Options.finish (opts : Options) : Except String Request :=
  if opts.inputs.isEmpty then
    .error "the following required arguments were not provided:\n  <INPUTS>..."
  else .ok (.render opts)

def dropChars (arg : String) (n : Nat) : String := String.ofList (arg.toList.drop n)

def splitValue (body : String) : String × Option String :=
  match body.splitOn "=" with
  | n :: v :: more => (n, some ("=".intercalate (v :: more)))
  | _ => (body, none)

def Options.parseFrom (opts : Options) : List String → Except String Request
  | [] => opts.finish
  | arg :: rest =>
    if arg == "--" then (opts.addInputs rest).finish
    else if arg == "--help" || arg == "-h" then .ok .help
    else if arg == "--version" || arg == "-V" then .ok .version
    else if arg == "--allow-dtd" then { opts with config.allowDtd := true }.parseFrom rest
    else if arg == "-o" then
      match rest with
      | v :: more => (opts.set .output v).parseFrom more
      | [] => .error "a value is required for '-o, --output <OUTPUT>' but none was supplied"
    else if arg.startsWith "--" then
      let (name, value) := splitValue (dropChars arg 2)
      match ValueOption.ofName? name with
      | some o =>
        match value with
        | some v => (opts.set o v).parseFrom rest
        | none =>
          match rest with
          | v :: more => (opts.set o v).parseFrom more
          | [] => .error ("a value is required for '" ++ o.display ++ "' but none was supplied")
      | none => .error ("unexpected argument '" ++ arg ++ "' found")
    else if arg.startsWith "-o" then (opts.set .output (dropChars arg 2)).parseFrom rest
    else if arg.startsWith "-" && arg.length > 1 then
      .error ("unexpected argument '" ++ arg ++ "' found")
    else { opts with inputs := opts.inputs ++ [arg] }.parseFrom rest

def Request.parse (args : List String) : Except String Request := Options.parseFrom {} args

end SchemaTypes.Program
