import ApiDrift.Exchange.Names
import ApiDrift.Spec

/-!
# Specifications as data

The tree of a specification under either naming, and the check that reads one back. Every field is
written, absent ones as null; a field with a default may be left out when it is read, and fields
that are not known are passed over.
-/

namespace ApiDrift

open Checking Exchange

namespace Parameter

def toDocument (n : Naming) (p : Parameter) : Document :=
  .map
    [n.entry .name (.text p.name), n.entry .location (.text p.location),
     n.entry .type (.text p.type), n.entry .required (.bool p.required),
     n.entry .description (orNull p.description), n.entry .default p.default,
     n.entry .schema (orNull p.schema)]

def ofEntries (es : Document.Entries) : Checked Parameter :=
  Parameter.mk <$> must es .name text <*> must es .location text
    <*> may es .type "string" text <*> may es .required false flag
    <*> may es .description none (nullable text) <*> may es .default .null anything
    <*> may es .schema none (nullable text)

def check : Document → Checked Parameter := model "Parameter" ofEntries

end Parameter

namespace RequestBody

def toDocument (n : Naming) (b : RequestBody) : Document :=
  .map
    [n.entry .contentTypes (texts b.contentTypes), n.entry .required (.bool b.required),
     n.entry .schema (orNull b.schema), n.entry .description (orNull b.description)]

def ofEntries (es : Document.Entries) : Checked RequestBody :=
  RequestBody.mk <$> may es .contentTypes [] (list text) <*> may es .required false flag
    <*> may es .schema none (nullable text) <*> may es .description none (nullable text)

def check : Document → Checked RequestBody := model "RequestBody" ofEntries

end RequestBody

namespace Response

def toDocument (n : Naming) (r : Response) : Document :=
  .map
    [n.entry .statusCode (.text r.statusCode), n.entry .description (.text r.description),
     n.entry .contentType (orNull r.contentType), n.entry .schema (orNull r.schema)]

def ofEntries (es : Document.Entries) : Checked Response :=
  Response.mk <$> must es .statusCode text <*> may es .description "" text
    <*> may es .contentType none (nullable text) <*> may es .schema none (nullable text)

def check : Document → Checked Response := model "Response" ofEntries

end Response

namespace Endpoint

def toDocument (n : Naming) (e : Endpoint) : Document :=
  .map
    [n.entry .id (.text e.id), n.entry .path (.text e.path), n.entry .method (.text e.method),
     n.entry .operationId (orNull e.operationId), n.entry .summary (orNull e.summary),
     n.entry .description (orNull e.description),
     n.entry .parameters (.seq (e.parameters.map (Parameter.toDocument n))),
     n.entry .requestBody ((e.requestBody.map (RequestBody.toDocument n)).getD .null),
     n.entry .responses (.seq (e.responses.map (Response.toDocument n))),
     n.entry .deprecated (.bool e.deprecated), n.entry .tags (texts e.tags)]

def ofEntries (es : Document.Entries) : Checked Endpoint :=
  Endpoint.mk <$> must es .id text <*> must es .path text <*> must es .method text
    <*> may es .operationId none (nullable text) <*> may es .summary none (nullable text)
    <*> may es .description none (nullable text)
    <*> may es .parameters [] (list Parameter.check)
    <*> may es .requestBody none (nullable RequestBody.check)
    <*> may es .responses [] (list Response.check)
    <*> may es .deprecated false flag <*> may es .tags [] (list text)

def check : Document → Checked Endpoint := model "Endpoint" ofEntries

end Endpoint

namespace Property

def toDocument (n : Naming) (p : Property) : Document :=
  .map
    [n.entry .name (.text p.name), n.entry .type (.text p.type),
     n.entry .required (.bool p.required), n.entry .description (orNull p.description),
     n.entry .format (orNull p.format), n.entry .enum ((p.values.map .seq).getD .null)]

def ofEntries (es : Document.Entries) : Checked Property :=
  Property.mk <$> must es .name text <*> must es .type text
    <*> may es .required false flag <*> may es .description none (nullable text)
    <*> may es .format none (nullable text) <*> may es .enum none (nullable (list anything))

def check : Document → Checked Property := model "SchemaProperty" ofEntries

end Property

namespace Schema

def toDocument (n : Naming) (s : Schema) : Document :=
  .map
    [n.entry .name (.text s.name), n.entry .type (.text s.type),
     n.entry .properties (.seq (s.properties.map (Property.toDocument n))),
     n.entry .required (texts s.required), n.entry .description (orNull s.description)]

def ofEntries (es : Document.Entries) : Checked Schema :=
  Schema.mk <$> must es .name text <*> may es .type "object" text
    <*> may es .properties [] (list Property.check) <*> may es .required [] (list text)
    <*> may es .description none (nullable text)

def check : Document → Checked Schema := model "Schema" ofEntries

end Schema

namespace SecurityScheme

def toDocument (n : Naming) (s : SecurityScheme) : Document :=
  .map
    [n.entry .name (.text s.name), n.entry .type (.text s.type),
     n.entry .description (orNull s.description)]

def ofEntries (es : Document.Entries) : Checked SecurityScheme :=
  SecurityScheme.mk <$> must es .name text <*> must es .type text
    <*> may es .description none (nullable text)

def check : Document → Checked SecurityScheme := model "SecurityDefinition" ofEntries

end SecurityScheme

namespace Spec

def toDocument (n : Naming) (s : Spec) : Document :=
  .map
    [n.entry .name (.text s.name), n.entry .version (.text s.version),
     n.entry .type (.text s.format.name),
     n.entry .endpoints (.seq (s.endpoints.map (Endpoint.toDocument n))),
     n.entry .schemas (.seq (s.schemas.map (Schema.toDocument n))),
     n.entry .security (.seq (s.security.map (SecurityScheme.toDocument n)))]

def ofEntries (es : Document.Entries) : Checked Spec :=
  Spec.mk <$> must es .name text <*> must es .version text
    <*> must es .type (choice Format.name Format.all)
    <*> may es .endpoints [] (list Endpoint.check)
    <*> may es .schemas [] (list Schema.check)
    <*> may es .security [] (list SecurityScheme.check)

def check : Document → Checked Spec := model "ApiSpec" ofEntries

end Spec
end ApiDrift
