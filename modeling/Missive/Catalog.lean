import Missive.Descriptor
/-!
# The bundled definitions

A handful of message definitions come with the library, and another one is used throughout its
examples.

* `Catalog.bundled` -- the definitions of the bundled package, in their order;
* `Catalog.examples`, `Catalog.exampleServices` -- the example definitions;
* `Catalog.messages`, `Catalog.services` -- all of them, read.
-/

namespace Missive.Catalog

/-- A definition text under its package and name. -/
structure Definition where
  package : String
  name : String
  text : String

/-- A text of whole lines. -/
def textOfLines (lines : List String) : String :=
  String.join (lines.map (· ++ "\n"))

/-- The bundled messages. -/
def bundled : List Definition :=
  [⟨Config.bundledPackage, "ColorRGBA",
    textOfLines ["float32 r", "float32 g", "float32 b", "float32 a"]⟩,
   ⟨Config.bundledPackage, "Header",
    textOfLines ["uint32 seq", "time stamp", "string frame_id"]⟩,
   ⟨Config.bundledPackage, "Int16", textOfLines ["int16 data"]⟩,
   ⟨Config.bundledPackage, "Int32", textOfLines ["int32 data"]⟩]

/-- The package of the first examples. -/
def examplePackage : String := "example_msgs"

/-- The package of the examples with unusual shapes. -/
def extraPackage : String := "extra_msgs"

/-- The example messages. -/
def examples : List Definition :=
  [⟨examplePackage, "Hello", textOfLines ["string data"]⟩,
   ⟨examplePackage, "Status",
    textOfLines
      ["# Outcome of a task.", "uint8 PENDING = 0", "uint8 DONE = 1",
       "string GREETING = hello # world", "Header header", "uint8 status", "Hello[] greetings"]⟩,
   ⟨examplePackage, "AllFieldTypes",
    textOfLines
      ["Header h", "byte b", "int8 i8", "int16 i16", "int32 i32", "int64 i64", "uint8 u8",
       "uint16 u16", "uint32 u32", "uint64 u64", "float32 f32", "float64 f64", "time t",
       "duration d", "string s", "std_msgs/ColorRGBA c", "uint32[] dyn_ary",
       "uint32[2] fix_ary"]⟩,
   ⟨extraPackage, "Empty", textOfLines ["# nothing here"]⟩,
   ⟨extraPackage, "Empties", textOfLines ["Empty[] xs", "Empty[2] ys", "uint8 tail"]⟩,
   ⟨extraPackage, "Vectors",
    textOfLines
      ["bool[] bools", "int8[] i8s", "byte[] bytes", "uint8[] u8s", "char[] chars",
       "int16[] i16s", "uint16[] u16s", "int32[] i32s", "uint32[] u32s", "int64[] i64s",
       "uint64[] u64s", "float32[] f32s", "float64[] f64s", "string[] strings", "time[] times",
       "duration[] durations", "Header[] headers"]⟩,
   ⟨extraPackage, "Fixed",
    textOfLines
      ["bool[2] bools", "int8[1] i8s", "uint8[3] u8s", "int16[2] i16s", "float64[1] f64s",
       "string[2] strings", "time[2] times", "duration[1] durations",
       "std_msgs/ColorRGBA[1] colors"]⟩,
   ⟨extraPackage, "Mixed",
    textOfLines
      ["# keyword and odd field names", "uint8 MODE = 7",
       "string MOTTO = it's \"quoted\" # not a comment", "bool type", "string self",
       "int16 frameName", "Vectors[] nested_url", "Fixed fixed", "uint16[2] match"]⟩]

/-- The example services. -/
def exampleServices : List Definition :=
  [⟨examplePackage, "AddTwoInts", textOfLines ["int64 a", "int64 b", "---", "int64 sum"]⟩,
   ⟨extraPackage, "Locate",
    textOfLines
      ["Header header", "string[] frame_ids", "---", "bool found", "Empty[] extra",
       "float32[3] xyz"]⟩]

/-- The resolver for a package under the standard configuration. -/
def resolver (package : String) : Resolver :=
  ⟨Config.standard, package⟩

/-- The message of a definition. -/
def Definition.message? (d : Definition) : Option Message :=
  ((resolver d.package).readMessageText d.name d.text).toOption

/-- The service of a definition. -/
def Definition.service? (d : Definition) : Option Service :=
  ((resolver d.package).readServiceText d.name d.text).toOption

/-- The services of the catalog. -/
def services : List Service :=
  exampleServices.filterMap Definition.service?

/-- The messages of the catalog: the bundled ones, the examples, and those of the services. -/
def messages : List Message :=
  bundled.filterMap Definition.message? ++ examples.filterMap Definition.message?
    ++ services.flatMap fun s => [s.request, s.response]

end Missive.Catalog
