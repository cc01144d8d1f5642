/-
# Bundled templates

The templates of the schemes, each as the lines of its file. The tokens are the
words in capitals that the manifest declares.
-/

namespace SchemaDepot.Bundle

/-- The benchmark database with columns of length `COLUMN_LENGTH`. -/
def benchmark : List String := [
    "DROP DATABASE IF EXISTS rdrs_bench;",
    "",
    "CREATE DATABASE rdrs_bench;",
    "",
    "USE rdrs_bench;",
    "",
    "CREATE TABLE table_1 (",
    "    id0 INT NOT NULL,",
    "    col0 VARCHAR(COLUMN_LENGTH),",
    "    PRIMARY KEY (id0)",
    ") ENGINE = ndbcluster;"]

/-- A row of the benchmark database. -/
def benchmarkAddRow : List String := [
    "INSERT INTO rdrs_bench.table_1 VALUES (VALUE_COLUMN_1, VALUE_COLUMN_2);"]

/-- A project of the feature store. -/
def hopsworksAddProject : List String := [
    "USE hopsworks;",
    "",
    "INSERT INTO project (id, inode_pid, inode_name, partition_id, projectname, username, created, description, payment_type, last_quota_update, kafka_max_num_topics, docker_image, python_env_id, creation_status)",
    "VALUES (PROJECT_NUMBER, 1, 'PROJECT_NAME', 1, 'PROJECT_NAME', 'macho@hopsworks.ai', '2023-01-01 00:00:00', NULL, 'NOLIMIT', '2023-01-01 00:00:00', 100, 'python38:3.0.0', NULL, 0);",
    "",
    "INSERT INTO project_team (project_id, team_member, team_role, added)",
    "VALUES (PROJECT_NUMBER, 'macho@hopsworks.ai', 'Data owner', '2023-01-01 00:00:00');",
    "",
    "INSERT INTO feature_store (id, name, project_id, created, hive_db_id)",
    "VALUES (PROJECT_NUMBER, 'PROJECT_NAME', PROJECT_NUMBER, '2023-01-01 00:00:00', PROJECT_NUMBER);",
    "",
    "DROP DATABASE IF EXISTS PROJECT_NAME;",
    "",
    "CREATE DATABASE PROJECT_NAME;"]

/-- A database with two tables of textual columns. -/
def textualColumns : List String := [
    "DROP DATABASE IF EXISTS DATABASE_NAME;",
    "",
    "CREATE DATABASE DATABASE_NAME;",
    "",
    "USE DATABASE_NAME;",
    "",
    "CREATE TABLE table1 (",
    "    id0 COLUMN_TYPE(COLUMN_LENGTH),",
    "    col0 COLUMN_TYPE(COLUMN_LENGTH),",
    "    PRIMARY KEY (id0)",
    ") ENGINE = ndbcluster;",
    "",
    "INSERT INTO table1 VALUES ('1', 'this is a test');",
    "INSERT INTO table1 VALUES ('2', 'это тест');",
    "INSERT INTO table1 VALUES ('3', '这是一个测验');",
    "INSERT INTO table1 VALUES ('4', '');",
    "INSERT INTO table1 VALUES ('5', NULL);",
    "INSERT INTO table1 VALUES ('6', 'quote '' inside');",
    "INSERT INTO table1 VALUES ('7', ' leading and trailing spaces ');",
    "",
    "CREATE TABLE table2 (",
    "    id0 INT,",
    "    col0 COLUMN_TYPE(COLUMN_LENGTH),",
    "    PRIMARY KEY (id0)",
    ") ENGINE = ndbcluster;",
    "",
    "INSERT INTO table2 VALUES (1, 'this is a test');",
    "INSERT INTO table2 VALUES (2, NULL);"]

/-- The files of the templates, by name. -/
def dynamicFiles : List (String × List String) := [
    ("benchmark.sql", benchmark),
    ("benchmark_add_row.sql", benchmarkAddRow),
    ("hopsworks_add_project.sql", hopsworksAddProject),
    ("textual_columns.sql", textualColumns)]

end SchemaDepot.Bundle
