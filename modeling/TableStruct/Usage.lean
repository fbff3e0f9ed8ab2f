import TableStruct.Options.Arguments

/-!
# Usage of the command line

The texts about the command line itself: the version, the help text and
what is wrong with arguments that give no options.
-/

namespace TableStruct

/-- The line that names the version. -/
def versionLine : String :=
  "oxide-ddl 0.1.0\n"

/-- The variable of the surroundings that holds a write mode. -/
def modeVariable : String :=
  "OXIDE_DDL_MODE"

/-- The help text. -/
def usage : String :=
  "Generate tagged Go structs from MySQL CREATE TABLE statements

Usage: oxide-ddl [OPTIONS] <PATH>

Arguments:
  <PATH>  SQL file containing CREATE TABLE statements

Options:
  -t, --tags <TAGS>                  Struct tag names, comma separated [default: json,db]
      --comment-tag <COMMENT_TAG>    Tag name used for column comments [default: comment]
      --table-prefix <TABLE_PREFIX>  Prefix stripped from table names
      --table-suffix <TABLE_SUFFIX>  Suffix stripped from table names
      --field-prefix <FIELD_PREFIX>  Prefix stripped from column names
      --field-suffix <FIELD_SUFFIX>  Suffix stripped from column names
      --target <TARGET>              Output directory (defaults to the directory of the SQL file)
      --file-name <FILE_NAME>        Output file name [default: generator.go]
  -m, --mode <MODE>                  Append to or overwrite the output file [default: append]
      --abbr <ABBR>                  Extra abbreviations rendered fully upper-cased, comma separated
      --package <PACKAGE>            Package name of the generated file [default: main]
      --strict                       Fail on columns without a type and on unterminated quotes
      --preserve-case                Keep the statement's case instead of lower-casing it
      --format <FORMAT>              What to emit [default: go] [possible values: go, json]
      --dry-run                      Print to stdout instead of writing the output file
  -v, --verbose                      Enable verbose output
  -h, --help                         Print help
  -V, --version                      Print version
"

namespace Refusal

/-- What is wrong with the arguments. -/
def message : Refusal → String
  | missingPath => "the path of the SQL file was not provided"
  | unknownArgument => "unexpected argument found"
  | invalidValue => "an argument has a value that is missing or not allowed"
  | valueValidation => "an argument has a value that is not valid"
  | conflict => "an argument cannot be used multiple times"
  | tooManyValues => "an argument that takes no value was given one"
  | help => "help requested"
  | version => "version requested"

end Refusal

end TableStruct
