import TableScaffold.Template.Body

/-!
# The bundled templates

One template for each generated file. The columns of a class and the lines of a database model come
from loops; everything else is text with slots.
-/

namespace TableScaffold.Template.Bundled

/-- The value of a name. -/
def slot (n : String) (rest : Body) : Body := .output (.name n) rest

/-- The value of a name, written as an accessor of the database client. -/
def camelSlot (n : String) (rest : Body) : Body := .output (.filter (.name n) "camel_case") rest

/-- An entry of the value of a name. -/
def entrySlot (n key : String) (rest : Body) : Body := .output (.entry (.name n) key) rest

/-- A text that stands only if an entry counts as true. -/
def mark (n key : String) (shown : Expr) (rest : Body) : Body :=
  .output (.choose (.entry (.name n) key) shown (.text "")) rest

/-- The line of a class that declares the property of a column. -/
def propertyLine (rest : Body) : Body :=
  .text "  " <| entrySlot "column" "name" <| mark "column" "is_optional" (.text "?") <|
  .text ": " <| entrySlot "column" "type" <| .text ";\n" rest

/-- The class with a property for each column. -/
def dto : Body :=
  .text "export class " <| slot "class_name" <| .text " \x7b\n" <|
  .each "column" (.name "columns") (propertyLine .done) .done <|
  .text "\x7d\n" <|
  .done

/-- The line of a database model that declares a column. -/
def columnLine : Body :=
  .text "  " <| entrySlot "column" "name" <| .text " " <| entrySlot "column" "type" <|
  mark "column" "is_optional" (.text "?") <|
  mark "column" "is_id" (.text " @id") <|
  mark "column" "db_specific"
    (.operation .join (.text " @db.") (.entry (.name "column") "db_specific")) <|
  .text "\n" <|
  .done

/-- The line of a database model that declares a relation. -/
def relationLine : Body :=
  .text "  " <| entrySlot "relation" "name" <| .text " " <|
  entrySlot "relation" "related_model" <|
  .text " @relation(fields: [" <| entrySlot "relation" "field" <|
  .text "], references: [" <| entrySlot "relation" "references" <|
  .text "], onDelete: " <| entrySlot "relation" "on_delete" <|
  .text ", onUpdate: " <| entrySlot "relation" "on_update" <|
  .text ")\n" <|
  .done

/-- The line of a database model that declares an index. -/
def indexLine : Body :=
  .text "  @@index([" <| entrySlot "index" "fields" <| .text "]" <|
  mark "index" "name"
    (.operation .join (.operation .join (.text ", map: \"") (.entry (.name "index") "name"))
      (.text "\"")) <|
  .text ")\n" <|
  .done

/-- The database model: its columns, then its relations, then its indexes. -/
def persistenceModel : Body :=
  .text "model " <| slot "model_name" <| .text " \x7b\n" <|
  .each "column" (.name "columns") columnLine .done <|
  .each "relation" (.name "relations") relationLine .done <|
  .each "index" (.name "indexes") indexLine .done <|
  .text "\x7d\n" <|
  .done

/-- Whether a column has a type. -/
def hasType (type : String) : Expr :=
  .comparison .equal (.entry (.name "column") "type") (.text type)

/-- The lines that check the type of a property; a property of unknown type is not checked. -/
def typeCheck (rest : Body) : Body :=
  .branch (hasType "string") (.text "  @IsString()\n" .done)
    (.branch (hasType "number") (.text "  @IsNumber()\n" .done)
      (.branch (hasType "boolean") (.text "  @IsBoolean()\n" .done)
        (.branch (hasType "Date")
          (.text "  @Type(() => Date)\n" <| .text "  @IsDate()\n" .done)
          .done .done) .done) .done) rest

/-- The class of a request: each property with its checks, and an empty line between two. -/
def request : Body :=
  .text "import \x7b Type \x7d from 'class-transformer';\n" <|
  .text "import \x7b IsBoolean, IsDate, IsNotEmpty, IsNumber, IsOptional, IsString \x7d" <|
  .text " from 'class-validator';\n" <|
  .text "\n" <|
  .text "export class " <| slot "class_name" <| .text " \x7b\n" <|
  .each "column" (.name "columns")
    (.branch (.entry (.name "column") "is_optional")
      (.text "  @IsOptional()\n" .done) (.text "  @IsNotEmpty()\n" .done) <|
    typeCheck <|
    propertyLine <|
    .branch (.not (.entry (.name "loop") "last")) (.text "\n" .done) .done .done) .done <|
  .text "\x7d\n" <|
  .done

/-- The handler class: it passes each request on to the service. -/
def handler : Body :=
  .text "import \x7b Injectable \x7d from '@nestjs/common';\n" <|
  .text "import \x7b " <| slot "db_service_class_name" <| .text " \x7d from '../data/" <|
  slot "dashed_file_name_plural" <| .text "-db.service';\n" <|
  .text "import \x7b " <| slot "dto_class_name" <| .text " \x7d from '../dtos/" <|
  slot "dashed_file_name" <| .text ".dto';\n" <|
  .text "\n" <|
  .text "@Injectable()\n" <|
  .text "export class " <| slot "class_name" <| .text " \x7b\n" <|
  .text "  constructor(private readonly dbService: " <| slot "db_service_class_name" <|
  .text ") \x7b\x7d\n" <|
  .text "\n" <|
  .text "  list(): Promise<" <| slot "dto_class_name" <| .text "[]> \x7b\n" <|
  .text "    return this.dbService.findAll();\n" <|
  .text "  \x7d\n" <|
  .text "\n" <|
  .text "  get(id: string): Promise<" <| slot "dto_class_name" <| .text "> \x7b\n" <|
  .text "    return this.dbService.findOne(id);\n" <|
  .text "  \x7d\n" <|
  .text "\n" <|
  .text "  create(data: " <| slot "dto_class_name" <| .text "): Promise<" <|
  slot "dto_class_name" <| .text "> \x7b\n" <|
  .text "    return this.dbService.create(data);\n" <|
  .text "  \x7d\n" <|
  .text "\n" <|
  .text "  update(id: string, data: Partial<" <| slot "dto_class_name" <| .text ">): Promise<" <|
  slot "dto_class_name" <| .text "> \x7b\n" <|
  .text "    return this.dbService.update(id, data);\n" <|
  .text "  \x7d\n" <|
  .text "\n" <|
  .text "  remove(id: string): Promise<void> \x7b\n" <|
  .text "    return this.dbService.remove(id);\n" <|
  .text "  \x7d\n" <|
  .text "\x7d\n" <|
  .done

/-- The controller class with the five routes. -/
def controller : Body :=
  .text "import \x7b Body, Controller, Delete, Get, Param, Post, Put \x7d" <|
  .text " from '@nestjs/common';\n" <|
  .text "import \x7b " <| slot "handler_class_name" <| .text " \x7d from '../handlers/" <|
  slot "dashed_file_name_plural" <| .text ".handler';\n" <|
  .text "import \x7b " <| slot "dto_class_name" <| .text " \x7d from '../dtos/" <|
  slot "dashed_file_name" <| .text ".dto';\n" <|
  .text "import \x7b " <| slot "request_class_name" <| .text " \x7d from '../http/requests/" <|
  slot "dashed_file_name" <| .text ".request';\n" <|
  .text "import \x7b " <| slot "response_class_name" <| .text " \x7d from '../http/responses/" <|
  slot "dashed_file_name" <| .text ".response';\n" <|
  .text "import \x7b " <| slot "list_response_class_name" <|
  .text " \x7d from '../http/responses/" <| slot "dashed_file_name_plural" <|
  .text "-list.response';\n" <|
  .text "\n" <|
  .text "@Controller('" <| slot "route_name" <| .text "')\n" <|
  .text "export class " <| slot "class_name" <| .text " \x7b\n" <|
  .text "  constructor(private readonly handler: " <| slot "handler_class_name" <|
  .text ") \x7b\x7d\n" <|
  .text "\n" <|
  .text "  @Get()\n" <|
  .text "  async list(): Promise<" <| slot "list_response_class_name" <| .text "> \x7b\n" <|
  .text "    return new " <| slot "list_response_class_name" <|
  .text "(await this.handler.list());\n" <|
  .text "  \x7d\n" <|
  .text "\n" <|
  .text "  @Get(':id')\n" <|
  .text "  async get(@Param('id') id: string): Promise<" <| slot "response_class_name" <|
  .text "> \x7b\n" <|
  .text "    return new " <| slot "response_class_name" <|
  .text "(await this.handler.get(id));\n" <|
  .text "  \x7d\n" <|
  .text "\n" <|
  .text "  @Post()\n" <|
  .text "  async create(@Body() request: " <| slot "request_class_name" <| .text "): Promise<" <|
  slot "response_class_name" <| .text "> \x7b\n" <|
  .text "    return new " <| slot "response_class_name" <|
  .text "(await this.handler.create(request as " <| slot "dto_class_name" <| .text "));\n" <|
  .text "  \x7d\n" <|
  .text "\n" <|
  .text "  @Put(':id')\n" <|
  .text "  async update(@Param('id') id: string, @Body() request: " <|
  slot "request_class_name" <| .text "): Promise<" <| slot "response_class_name" <|
  .text "> \x7b\n" <|
  .text "    return new " <| slot "response_class_name" <|
  .text "(await this.handler.update(id, request));\n" <|
  .text "  \x7d\n" <|
  .text "\n" <|
  .text "  @Delete(':id')\n" <|
  .text "  async remove(@Param('id') id: string): Promise<void> \x7b\n" <|
  .text "    await this.handler.remove(id);\n" <|
  .text "  \x7d\n" <|
  .text "\x7d\n" <|
  .done

/-- The service class over the database client. -/
def dbService : Body :=
  .text "import \x7b Injectable \x7d from '@nestjs/common';\n" <|
  .text "import \x7b PrismaService \x7d from '../prisma/prisma.service';\n" <|
  .text "import \x7b " <| slot "dto_class_name" <| .text " \x7d from '../dtos/" <|
  slot "dashed_file_name" <| .text ".dto';\n" <|
  .text "import \x7b " <| slot "not_found_error_class_name" <|
  .text " \x7d from '../exceptions/" <| slot "dashed_file_name" <| .text "-not-found-error';\n" <|
  .text "\n" <|
  .text "@Injectable()\n" <|
  .text "export class " <| slot "class_name" <| .text " \x7b\n" <|
  .text "  constructor(private readonly prisma: PrismaService) \x7b\x7d\n" <|
  .text "\n" <|
  .text "  async findAll(): Promise<" <| slot "dto_class_name" <| .text "[]> \x7b\n" <|
  .text "    return this.prisma." <| camelSlot "plural_class_name" <| .text ".findMany();\n" <|
  .text "  \x7d\n" <|
  .text "\n" <|
  .text "  async findOne(id: string): Promise<" <| slot "dto_class_name" <| .text "> \x7b\n" <|
  .text "    const record = await this.prisma." <| camelSlot "plural_class_name" <|
  .text ".findUnique(\x7b where: \x7b id \x7d \x7d);\n" <|
  .text "    if (!record) \x7b\n" <|
  .text "      throw new " <| slot "not_found_error_class_name" <| .text "(id);\n" <|
  .text "    \x7d\n" <|
  .text "    return record;\n" <|
  .text "  \x7d\n" <|
  .text "\n" <|
  .text "  async create(data: " <| slot "dto_class_name" <| .text "): Promise<" <|
  slot "dto_class_name" <| .text "> \x7b\n" <|
  .text "    return this.prisma." <| camelSlot "plural_class_name" <|
  .text ".create(\x7b data \x7d);\n" <|
  .text "  \x7d\n" <|
  .text "\n" <|
  .text "  async update(id: string, data: Partial<" <| slot "dto_class_name" <|
  .text ">): Promise<" <| slot "dto_class_name" <| .text "> \x7b\n" <|
  .text "    await this.findOne(id);\n" <|
  .text "    return this.prisma." <| camelSlot "plural_class_name" <|
  .text ".update(\x7b where: \x7b id \x7d, data \x7d);\n" <|
  .text "  \x7d\n" <|
  .text "\n" <|
  .text "  async remove(id: string): Promise<void> \x7b\n" <|
  .text "    await this.findOne(id);\n" <|
  .text "    await this.prisma." <| camelSlot "plural_class_name" <|
  .text ".delete(\x7b where: \x7b id \x7d \x7d);\n" <|
  .text "  \x7d\n" <|
  .text "\x7d\n" <|
  .done

/-- The class of a response with one row. -/
def response : Body :=
  .text "import \x7b " <| slot "dto_class_name" <| .text " \x7d from '../../dtos/" <|
  slot "dashed_file_name" <| .text ".dto';\n" <|
  .text "\n" <|
  .text "export class " <| slot "class_name" <| .text " \x7b\n" <|
  .text "  data: " <| slot "dto_class_name" <| .text ";\n" <|
  .text "\n" <|
  .text "  constructor(data: " <| slot "dto_class_name" <| .text ") \x7b\n" <|
  .text "    this.data = data;\n" <|
  .text "  \x7d\n" <|
  .text "\x7d\n" <|
  .done

/-- The class of a response with all rows. -/
def listResponse : Body :=
  .text "import \x7b " <| slot "response_dto_class_name" <| .text " \x7d from '../../dtos/" <|
  slot "dashed_file_name" <| .text ".dto';\n" <|
  .text "\n" <|
  .text "export class " <| slot "class_name" <| .text " \x7b\n" <|
  .text "  items: " <| slot "response_dto_class_name" <| .text "[];\n" <|
  .text "  total: number;\n" <|
  .text "\n" <|
  .text "  constructor(items: " <| slot "response_dto_class_name" <| .text "[]) \x7b\n" <|
  .text "    this.items = items;\n" <|
  .text "    this.total = items.length;\n" <|
  .text "  \x7d\n" <|
  .text "\x7d\n" <|
  .done

/-- The error class for a row that is not there. -/
def notFoundError : Body :=
  .text "import \x7b NotFoundException \x7d from '@nestjs/common';\n" <|
  .text "import \x7b " <| slot "upper_case_class_name" <|
  .text "_NOT_FOUND \x7d from '../config/constants';\n" <|
  .text "\n" <|
  .text "// Raised when a " <| slot "lower_case_class_name" <|
  .text " lookup by id finds nothing\n" <|
  .text "export class " <| slot "class_name" <|
  .text "NotFoundError extends NotFoundException \x7b\n" <|
  .text "  constructor(id: string) \x7b\n" <|
  .text "    super(`$\x7b " <| slot "upper_case_class_name" <|
  .text "_NOT_FOUND \x7d: $\x7bid\x7d`);\n" <|
  .text "  \x7d\n" <|
  .text "\x7d\n" <|
  .done

/-- The constant that the error class uses. -/
def constants : Body :=
  .text "export const " <| slot "upper_case_class_name" <| .text "_NOT_FOUND = '" <|
  slot "upper_case_class_name" <| .text "_NOT_FOUND';\n" <|
  .done

/-- The module class that ties the others together. -/
def moduleClass : Body :=
  .text "import \x7b Module \x7d from '@nestjs/common';\n" <|
  .text "import \x7b PrismaService \x7d from './prisma/prisma.service';\n" <|
  .text "import \x7b " <| slot "plural_class_name" <|
  .text "Controller \x7d from './controllers/" <| slot "dashed_file_name_plural" <|
  .text ".controller';\n" <|
  .text "import \x7b " <| slot "plural_class_name" <| .text "Handler \x7d from './handlers/" <|
  slot "dashed_file_name_plural" <| .text ".handler';\n" <|
  .text "import \x7b " <| slot "plural_class_name" <| .text "DbService \x7d from './data/" <|
  slot "dashed_file_name_plural" <| .text "-db.service';\n" <|
  .text "\n" <|
  .text "@Module(\x7b\n" <|
  .text "  controllers: [" <| slot "plural_class_name" <| .text "Controller],\n" <|
  .text "  providers: [PrismaService, " <| slot "plural_class_name" <| .text "Handler, " <|
  slot "plural_class_name" <| .text "DbService],\n" <|
  .text "  exports: [" <| slot "plural_class_name" <| .text "DbService],\n" <|
  .text "\x7d)\n" <|
  .text "export class " <| slot "plural_class_name" <| .text "Module \x7b\x7d\n" <|
  .done

end TableScaffold.Template.Bundled
