import TableScaffold.Artifact

/-!
# The texts of the bundled templates

A bundled template is what its text stands for. The text is written out here line by line; read as a
template, it gives the bundled one, in which the texts that follow each other directly have become
one. A library of the texts therefore renders every view model as the bundled library does.
-/

namespace TableScaffold

namespace Template.Bundled

/-- The text of the template of a transfer class. -/
def dtoLines : List String :=
  ["export class \x7b\x7b class_name \x7d\x7d \x7b",
   "\x7b% for column in columns %\x7d",
   "  \x7b\x7b column.name \x7d\x7d\x7b\x7b '?' if column.is_optional else '' \x7d\x7d: " ++
     "\x7b\x7b column.type \x7d\x7d;",
   "\x7b% endfor %\x7d",
   "\x7d"]

/-- The text of the template of a request class. -/
def requestLines : List String :=
  ["import \x7b Type \x7d from 'class-transformer';",
   "import \x7b IsBoolean, IsDate, IsNotEmpty, IsNumber, IsOptional, IsString \x7d from " ++
     "'class-validator';",
   "",
   "export class \x7b\x7b class_name \x7d\x7d \x7b",
   "\x7b% for column in columns %\x7d",
   "\x7b% if column.is_optional %\x7d",
   "  @IsOptional()",
   "\x7b% else %\x7d",
   "  @IsNotEmpty()",
   "\x7b% endif %\x7d",
   "\x7b% if column.type == 'string' %\x7d",
   "  @IsString()",
   "\x7b% elif column.type == 'number' %\x7d",
   "  @IsNumber()",
   "\x7b% elif column.type == 'boolean' %\x7d",
   "  @IsBoolean()",
   "\x7b% elif column.type == 'Date' %\x7d",
   "  @Type(() => Date)",
   "  @IsDate()",
   "\x7b% endif %\x7d",
   "  \x7b\x7b column.name \x7d\x7d\x7b\x7b '?' if column.is_optional else '' \x7d\x7d: " ++
     "\x7b\x7b column.type \x7d\x7d;",
   "\x7b% if not loop.last %\x7d",
   "",
   "\x7b% endif %\x7d",
   "\x7b% endfor %\x7d",
   "\x7d"]

/-- The text of the template of a response with one row. -/
def responseLines : List String :=
  ["import \x7b \x7b\x7b dto_class_name \x7d\x7d \x7d from '../../dtos/" ++
     "\x7b\x7b dashed_file_name \x7d\x7d.dto';",
   "",
   "export class \x7b\x7b class_name \x7d\x7d \x7b",
   "  data: \x7b\x7b dto_class_name \x7d\x7d;",
   "",
   "  constructor(data: \x7b\x7b dto_class_name \x7d\x7d) \x7b",
   "    this.data = data;",
   "  \x7d",
   "\x7d"]

/-- The text of the template of a response with all rows. -/
def listResponseLines : List String :=
  ["import \x7b \x7b\x7b response_dto_class_name \x7d\x7d \x7d from '../../dtos/" ++
     "\x7b\x7b dashed_file_name \x7d\x7d.dto';",
   "",
   "export class \x7b\x7b class_name \x7d\x7d \x7b",
   "  items: \x7b\x7b response_dto_class_name \x7d\x7d[];",
   "  total: number;",
   "",
   "  constructor(items: \x7b\x7b response_dto_class_name \x7d\x7d[]) \x7b",
   "    this.items = items;",
   "    this.total = items.length;",
   "  \x7d",
   "\x7d"]

/-- The text of the template of a controller. -/
def controllerLines : List String :=
  ["import \x7b Body, Controller, Delete, Get, Param, Post, Put \x7d from '@nestjs/common';",
   "import \x7b \x7b\x7b handler_class_name \x7d\x7d \x7d from '../handlers/" ++
     "\x7b\x7b dashed_file_name_plural \x7d\x7d.handler';",
   "import \x7b \x7b\x7b dto_class_name \x7d\x7d \x7d from '../dtos/" ++
     "\x7b\x7b dashed_file_name \x7d\x7d.dto';",
   "import \x7b \x7b\x7b request_class_name \x7d\x7d \x7d from '../http/requests/" ++
     "\x7b\x7b dashed_file_name \x7d\x7d.request';",
   "import \x7b \x7b\x7b response_class_name \x7d\x7d \x7d from " ++
     "'../http/responses/\x7b\x7b dashed_file_name \x7d\x7d.response';",
   "import \x7b \x7b\x7b list_response_class_name \x7d\x7d \x7d from " ++
     "'../http/responses/\x7b\x7b dashed_file_name_plural \x7d\x7d-list.response';",
   "",
   "@Controller('\x7b\x7b route_name \x7d\x7d')",
   "export class \x7b\x7b class_name \x7d\x7d \x7b",
   "  constructor(private readonly handler: \x7b\x7b handler_class_name \x7d\x7d) \x7b\x7d",
   "",
   "  @Get()",
   "  async list(): Promise<\x7b\x7b list_response_class_name \x7d\x7d> \x7b",
   "    return new \x7b\x7b list_response_class_name \x7d\x7d(await this.handler.list());",
   "  \x7d",
   "",
   "  @Get(':id')",
   "  async get(@Param('id') id: string): Promise<\x7b\x7b response_class_name \x7d\x7d> " ++
     "\x7b",
   "    return new \x7b\x7b response_class_name \x7d\x7d(await this.handler.get(id));",
   "  \x7d",
   "",
   "  @Post()",
   "  async create(@Body() request: \x7b\x7b request_class_name \x7d\x7d): " ++
     "Promise<\x7b\x7b response_class_name \x7d\x7d> \x7b",
   "    return new \x7b\x7b response_class_name \x7d\x7d(await " ++
     "this.handler.create(request as \x7b\x7b dto_class_name \x7d\x7d));",
   "  \x7d",
   "",
   "  @Put(':id')",
   "  async update(@Param('id') id: string, @Body() request: " ++
     "\x7b\x7b request_class_name \x7d\x7d): Promise<\x7b\x7b response_class_name \x7d\x7d> \x7b",
   "    return new \x7b\x7b response_class_name \x7d\x7d(await this.handler.update(id, " ++
     "request));",
   "  \x7d",
   "",
   "  @Delete(':id')",
   "  async remove(@Param('id') id: string): Promise<void> \x7b",
   "    await this.handler.remove(id);",
   "  \x7d",
   "\x7d"]

/-- The text of the template of a handler. -/
def handlerLines : List String :=
  ["import \x7b Injectable \x7d from '@nestjs/common';",
   "import \x7b \x7b\x7b db_service_class_name \x7d\x7d \x7d from '../data/" ++
     "\x7b\x7b dashed_file_name_plural \x7d\x7d-db.service';",
   "import \x7b \x7b\x7b dto_class_name \x7d\x7d \x7d from '../dtos/" ++
     "\x7b\x7b dashed_file_name \x7d\x7d.dto';",
   "",
   "@Injectable()",
   "export class \x7b\x7b class_name \x7d\x7d \x7b",
   "  constructor(private readonly dbService: \x7b\x7b db_service_class_name \x7d\x7d) " ++
     "\x7b\x7d",
   "",
   "  list(): Promise<\x7b\x7b dto_class_name \x7d\x7d[]> \x7b",
   "    return this.dbService.findAll();",
   "  \x7d",
   "",
   "  get(id: string): Promise<\x7b\x7b dto_class_name \x7d\x7d> \x7b",
   "    return this.dbService.findOne(id);",
   "  \x7d",
   "",
   "  create(data: \x7b\x7b dto_class_name \x7d\x7d): Promise<" ++
     "\x7b\x7b dto_class_name \x7d\x7d> \x7b",
   "    return this.dbService.create(data);",
   "  \x7d",
   "",
   "  update(id: string, data: Partial<\x7b\x7b dto_class_name \x7d\x7d>): " ++
     "Promise<\x7b\x7b dto_class_name \x7d\x7d> \x7b",
   "    return this.dbService.update(id, data);",
   "  \x7d",
   "",
   "  remove(id: string): Promise<void> \x7b",
   "    return this.dbService.remove(id);",
   "  \x7d",
   "\x7d"]

/-- The text of the template of a service over the database client. -/
def dbServiceLines : List String :=
  ["import \x7b Injectable \x7d from '@nestjs/common';",
   "import \x7b PrismaService \x7d from '../prisma/prisma.service';",
   "import \x7b \x7b\x7b dto_class_name \x7d\x7d \x7d from '../dtos/" ++
     "\x7b\x7b dashed_file_name \x7d\x7d.dto';",
   "import \x7b \x7b\x7b not_found_error_class_name \x7d\x7d \x7d from " ++
     "'../exceptions/\x7b\x7b dashed_file_name \x7d\x7d-not-found-error';",
   "",
   "@Injectable()",
   "export class \x7b\x7b class_name \x7d\x7d \x7b",
   "  constructor(private readonly prisma: PrismaService) \x7b\x7d",
   "",
   "  async findAll(): Promise<\x7b\x7b dto_class_name \x7d\x7d[]> \x7b",
   "    return this.prisma.\x7b\x7b plural_class_name | camel_case \x7d\x7d.findMany();",
   "  \x7d",
   "",
   "  async findOne(id: string): Promise<\x7b\x7b dto_class_name \x7d\x7d> \x7b",
   "    const record = await this.prisma." ++
     "\x7b\x7b plural_class_name | camel_case \x7d\x7d.findUnique(\x7b where: \x7b id \x7d \x7d);",
   "    if (!record) \x7b",
   "      throw new \x7b\x7b not_found_error_class_name \x7d\x7d(id);",
   "    \x7d",
   "    return record;",
   "  \x7d",
   "",
   "  async create(data: \x7b\x7b dto_class_name \x7d\x7d): Promise<" ++
     "\x7b\x7b dto_class_name \x7d\x7d> \x7b",
   "    return this.prisma.\x7b\x7b plural_class_name | camel_case \x7d\x7d.create(\x7b " ++
     "data \x7d);",
   "  \x7d",
   "",
   "  async update(id: string, data: Partial<\x7b\x7b dto_class_name \x7d\x7d>): " ++
     "Promise<\x7b\x7b dto_class_name \x7d\x7d> \x7b",
   "    await this.findOne(id);",
   "    return this.prisma.\x7b\x7b plural_class_name | camel_case \x7d\x7d.update(\x7b " ++
     "where: \x7b id \x7d, data \x7d);",
   "  \x7d",
   "",
   "  async remove(id: string): Promise<void> \x7b",
   "    await this.findOne(id);",
   "    await this.prisma.\x7b\x7b plural_class_name | camel_case \x7d\x7d.delete(\x7b " ++
     "where: \x7b id \x7d \x7d);",
   "  \x7d",
   "\x7d"]

/-- The text of the template of the error for a missing row. -/
def notFoundErrorLines : List String :=
  ["import \x7b NotFoundException \x7d from '@nestjs/common';",
   "import \x7b \x7b\x7b upper_case_class_name \x7d\x7d_NOT_FOUND \x7d from " ++
     "'../config/constants';",
   "",
   "// Raised when a \x7b\x7b lower_case_class_name \x7d\x7d lookup by id finds nothing",
   "export class \x7b\x7b class_name \x7d\x7dNotFoundError extends NotFoundException \x7b",
   "  constructor(id: string) \x7b",
   "    super(\x60$\x7b \x7b\x7b upper_case_class_name \x7d\x7d_NOT_FOUND \x7d: " ++
     "$\x7bid\x7d\x60);",
   "  \x7d",
   "\x7d"]

/-- The text of the template of the constants. -/
def constantsLines : List String :=
  ["export const \x7b\x7b upper_case_class_name \x7d\x7d_NOT_FOUND = '" ++
     "\x7b\x7b upper_case_class_name \x7d\x7d_NOT_FOUND';"]

/-- The text of the template of the module class. -/
def moduleClassLines : List String :=
  ["import \x7b Module \x7d from '@nestjs/common';",
   "import \x7b PrismaService \x7d from './prisma/prisma.service';",
   "import \x7b \x7b\x7b plural_class_name \x7d\x7dController \x7d from " ++
     "'./controllers/\x7b\x7b dashed_file_name_plural \x7d\x7d.controller';",
   "import \x7b \x7b\x7b plural_class_name \x7d\x7dHandler \x7d from './handlers/" ++
     "\x7b\x7b dashed_file_name_plural \x7d\x7d.handler';",
   "import \x7b \x7b\x7b plural_class_name \x7d\x7dDbService \x7d from './data/" ++
     "\x7b\x7b dashed_file_name_plural \x7d\x7d-db.service';",
   "",
   "@Module(\x7b",
   "  controllers: [\x7b\x7b plural_class_name \x7d\x7dController],",
   "  providers: [PrismaService, \x7b\x7b plural_class_name \x7d\x7dHandler, " ++
     "\x7b\x7b plural_class_name \x7d\x7dDbService],",
   "  exports: [\x7b\x7b plural_class_name \x7d\x7dDbService],",
   "\x7d)",
   "export class \x7b\x7b plural_class_name \x7d\x7dModule \x7b\x7d"]

/-- The text of the template of a database model. -/
def persistenceModelLines : List String :=
  ["model \x7b\x7b model_name \x7d\x7d \x7b",
   "\x7b% for column in columns %\x7d",
   "  \x7b\x7b column.name \x7d\x7d \x7b\x7b column.type \x7d\x7d\x7b\x7b '?' if " ++
     "column.is_optional else '' \x7d\x7d\x7b\x7b ' @id' if column.is_id else '' " ++
     "\x7d\x7d\x7b\x7b (' @db.' ~ column.db_specific) if column.db_specific else '' \x7d\x7d",
   "\x7b% endfor %\x7d",
   "\x7b% for relation in relations %\x7d",
   "  \x7b\x7b relation.name \x7d\x7d \x7b\x7b relation.related_model \x7d\x7d " ++
     "@relation(fields: [\x7b\x7b relation.field \x7d\x7d], references: [" ++
     "\x7b\x7b relation.references \x7d\x7d], onDelete: \x7b\x7b relation.on_delete \x7d\x7d, " ++
     "onUpdate: \x7b\x7b relation.on_update \x7d\x7d)",
   "\x7b% endfor %\x7d",
   "\x7b% for index in indexes %\x7d",
   "  @@index([\x7b\x7b index.fields \x7d\x7d]\x7b\x7b (', map: \"' ~ index.name ~ '\"') " ++
     "if index.name else '' \x7d\x7d)",
   "\x7b% endfor %\x7d",
   "\x7d"]

end Template.Bundled

/-- The lines of the template of a view model. -/
def View.lines : View → List String
  | dto => Template.Bundled.dtoLines
  | request => Template.Bundled.requestLines
  | response => Template.Bundled.responseLines
  | listResponse => Template.Bundled.listResponseLines
  | controller => Template.Bundled.controllerLines
  | handler => Template.Bundled.handlerLines
  | dbService => Template.Bundled.dbServiceLines
  | notFoundError => Template.Bundled.notFoundErrorLines
  | constants => Template.Bundled.constantsLines
  | moduleClass => Template.Bundled.moduleClassLines
  | persistenceModel => Template.Bundled.persistenceModelLines

namespace Template

/-- Lines as one text; each ends with a line end. -/
def textOf (lines : List String) : String := String.join (lines.map (· ++ "\n"))

/-! ## Texts by their characters -/

/-- The characters of a line, which may be written in parts. -/
inductive Spelled : String → List Char → Prop
  | ofList (cs : List Char) : Spelled (String.ofList cs) cs
  | append {s t : String} {cs ds : List Char} (hs : Spelled s cs) (ht : Spelled t ds) :
    Spelled (s ++ t) (cs ++ ds)

/-- The characters of each line. -/
inductive Spells : List String → List (List Char) → Prop
  | nil : Spells [] []
  | cons {line : String} {cs : List Char} {lines : List String} {css : List (List Char)}
    (hline : Spelled line cs) (h : Spells lines css) : Spells (line :: lines) (cs :: css)

theorem Spelled.toList {s : String} {cs : List Char} (h : Spelled s cs) : s.toList = cs := by
  induction h with
  | ofList cs => exact String.toList_ofList
  | append _ _ ihs iht => rw [String.toList_append, ihs, iht]

/-- The characters of lines as one text. -/
def charsOf (css : List (List Char)) : List Char := css.flatMap (· ++ ['\n'])

theorem Spells.map_toList {lines : List String} {css : List (List Char)} (h : Spells lines css) :
    lines.map String.toList = css := by
  induction h with
  | nil => rfl
  | cons hline _ ih => rw [List.map_cons, ih, hline.toList]

theorem toList_textOf (lines : List String) :
    (textOf lines).toList = charsOf (lines.map String.toList) := by
  unfold textOf charsOf
  induction lines with
  | nil => rfl
  | cons line lines ih =>
    rw [List.map_cons, String.join_cons, String.toList_append, ih]
    simp

/-- What holds of the characters of lines holds of the lines. Characters are what the kernel can
compute with. -/
theorem Spells.elim {lines : List String} {css : List (List Char)}
    {P : List (List Char) → Prop} (h : Spells lines css) (p : P css) :
    P (lines.map String.toList) := by
  rw [h.map_toList]
  exact p

/-! ## Texts that follow each other -/

/-- A text in front of a template; it becomes one with a text that starts it. -/
def Body.glue (s : String) : Body → Body
  | .text t rest => .text (s ++ t) rest
  | b => .text s b

/-- A template in which no text follows a text. -/
def Body.joined : Body → Body
  | done => done
  | text s rest => Body.glue s rest.joined
  | output e rest => .output e rest.joined
  | each var e body otherwise rest => .each var e body.joined otherwise.joined rest.joined
  | branch test yes no rest => .branch test yes.joined no.joined rest.joined
  | assign var e rest => .assign var e rest.joined
  | embed file isOptional rest => .embed file isOptional rest.joined

theorem Body.render_glue (embedding : Embedding) (s : String) (b : Body) :
    (Body.glue s b).render embedding = (Body.text s b).render embedding := by
  cases b with
  | text t rest =>
    funext scope
    simp only [Body.glue, Body.render]
    cases rest.render embedding scope with
    | error f => rfl
    | ok r =>
      show Except.ok (s ++ t ++ r.1, r.2) = Except.ok (s ++ (t ++ r.1), r.2)
      rw [String.append_assoc]
  | _ => rfl

theorem Body.render_joined (embedding : Embedding) (b : Body) :
    b.joined.render embedding = b.render embedding := by
  induction b with
  | done => rfl
  | text s rest ih =>
    rw [Body.joined, Body.render_glue]
    funext scope
    simp only [Body.render, ih]
  | output e rest ih =>
    funext scope
    simp only [Body.joined, Body.render, ih]
  | each var e body otherwise rest ihBody ihOtherwise ih =>
    funext scope
    simp only [Body.joined, Body.render, ihBody, ihOtherwise, ih]
  | branch test yes no rest ihYes ihNo ih =>
    funext scope
    simp only [Body.joined, Body.render, ihYes, ihNo, ih]
  | assign var e rest ih =>
    funext scope
    simp only [Body.joined, Body.render, ih]
  | embed file isOptional rest ih =>
    funext scope
    simp only [Body.joined, Body.render, ih]

/-! ## The library of the texts -/

set_option maxRecDepth 20000 in
theorem Body.ofText?_lines (view : View) :
    Body.ofText? (charsOf (view.lines.map String.toList)) = some view.bundled.joined := by
  cases view <;>
  · apply Spells.elim (P := fun css => Body.ofText? (charsOf css) = some _)
    · repeat constructor
    · decide +kernel

/-- The library of the texts of the templates, as files hold them. -/
def Library.written : Library := fun file =>
  match View.all.find? (·.templateFile == file) with
  | some view => Body.ofContent (textOf view.lines).toUTF8
  | none => .error .fileMissing

theorem Body.ofContent_toUTF8 (s : String) :
    Body.ofContent s.toUTF8 =
      match Body.ofText? s.toList with
      | some b => .ok b
      | none => .error .malformed := by
  have read : String.fromUTF8? s.toUTF8 = some s := by
    unfold String.fromUTF8?
    rw [String.toUTF8_eq_toByteArray, dif_pos s.isValidUTF8]
    rfl
  cases hb : Body.ofText? s.toList <;> simp only [Body.ofContent, read, hb]

theorem Library.written_eq (file : String) :
    Library.written file = (Library.bundled file).map Body.joined := by
  unfold Library.written Library.bundled
  cases View.all.find? (·.templateFile == file) with
  | none => rfl
  | some view =>
    show Body.ofContent (textOf view.lines).toUTF8 = .ok view.bundled.joined
    rw [Body.ofContent_toUTF8, toList_textOf, Body.ofText?_lines]

theorem Library.renderFile_written (depth : Nat) :
    Library.written.renderFile depth = Library.bundled.renderFile depth := by
  induction depth with
  | zero => rfl
  | succ depth ih =>
    funext scope file
    unfold Library.renderFile
    rw [ih, Library.written_eq]
    cases Library.bundled file with
    | error f => rfl
    | ok b =>
      show (b.joined.render _ scope).map (·.1) = (b.render _ scope).map (·.1)
      rw [Body.render_joined]

theorem Library.renderView_written (file : String) (model : ViewModel) :
    Library.written.renderView file model = Library.bundled.renderView file model := by
  unfold Library.renderView
  rw [Library.renderFile_written, Library.written_eq]
  cases Library.bundled file <;> rfl

end Template

/-- A view model renders alike over the texts of the templates and over the bundled templates. -/
theorem View.render_written (s : TableSchema) (view : View) :
    view.render s Template.Library.written = view.render s Template.Library.bundled := by
  unfold render
  simp only [Template.Library.renderView_written]

/-- Generation over the texts of the templates is generation over the bundled templates. -/
theorem generate_written (s : TableSchema) (directory : String) :
    generate s directory Template.Library.written =
      generate s directory Template.Library.bundled := by
  unfold generate
  simp only [View.render_written]

theorem artifactsOf_written (s : TableSchema) (directory : String) (views : List View) :
    artifactsOf s directory Template.Library.written views =
      artifactsOf s directory Template.Library.bundled views := by
  induction views with
  | nil => rfl
  | cons view views ih => rw [artifactsOf, artifactsOf, View.render_written, ih]

end TableScaffold
